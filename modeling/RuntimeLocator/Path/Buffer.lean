/-
Paths composed of components in a buffer of fixed capacity.

The length of a path is counted in 16-bit units, and one unit is kept free for a
terminator (`PathBuffer.fits`). `Path.join` says what appending a component gives when
there is room without end; a buffer takes that path whole or refuses it.
-/

import RuntimeLocator.Lookup.Failure

namespace RuntimeLocator

namespace Path

/-- Both kinds of slash separate components. -/
def isSeparator (c : Char) : Bool :=
  c == '\\' || c == '/'

/-- The characters before the trailing separators. -/
def dropTrailing (path : List Char) : List Char :=
  (path.reverse.dropWhile isSeparator).reverse

/-- A path with one more component. The trailing separators of the path and the leading
ones of the component become a single backslash. Three paths keep what they end with:
the empty path, a path of separators alone, and a drive, whose colon only separators
follow. A component of separators alone changes nothing. -/
def joinChars (path component : List Char) : List Char :=
  let component := component.dropWhile isSeparator
  let base := dropTrailing path
  if component = [] then path
  else if path = [] then component
  else if base = [] ∨ (base.getLast? = some ':' ∧ base.length < path.length) then
    path ++ component
  else base ++ '\\' :: component

def join (path component : String) : String :=
  String.ofList (joinChars path.toList component.toList)

end Path

/-- A path that leaves room for a terminator in a buffer of some capacity. -/
structure PathBuffer where
  path : String
  capacity : Nat
  fits : Utf16.units path + 1 ≤ capacity
deriving DecidableEq

namespace PathBuffer

/-- The buffer that holds a path, if it fits. -/
def hold (path : String) (capacity : Nat) : Except LookupFailure PathBuffer :=
  if fits : Utf16.units path + 1 ≤ capacity then .ok ⟨path, capacity, fits⟩
  else .error (.capacityExceeded (Utf16.units path + 1) capacity)

/-- The buffer with one more component, if the longer path fits. -/
def append (buffer : PathBuffer) (component : String) : Except LookupFailure PathBuffer :=
  hold (Path.join buffer.path component) buffer.capacity

/-- An append that leaves the buffer as it was when it fails, with the failure. -/
def tryAppend (buffer : PathBuffer) (component : String) : PathBuffer × Option LookupFailure :=
  match buffer.append component with
  | .ok buffer => (buffer, none)
  | .error failure => (buffer, some failure)

/-- Appends that go on after a failure: the buffer at the end, and after each append the
path and the failure, if it failed. -/
def appendEach (buffer : PathBuffer) :
    List String → PathBuffer × List (String × Option LookupFailure)
  | [] => (buffer, [])
  | component :: components =>
    let next := buffer.tryAppend component
    let rest := appendEach next.1 components
    (rest.1, (next.1.path, next.2) :: rest.2)

end PathBuffer

end RuntimeLocator
