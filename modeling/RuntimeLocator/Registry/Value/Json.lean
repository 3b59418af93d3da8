/-
Hives and values in JSON: a hive is its name, and a value is an object whose only
member is named after the kind of the value.
-/

import RuntimeLocator.Json.Decode
import RuntimeLocator.Json.Print
import RuntimeLocator.Registry.Hive
import RuntimeLocator.Registry.Value

namespace RuntimeLocator

open Json

/-! ### Hives -/

/-- A hive may also be written as an object that holds `null` under its name. -/
def Hive.variants : List (Reader.Variant Hive) :=
  [.localMachine, .currentUser].map fun hive =>
    { name := hive.name
      bare := .ok hive
      body := do
        Reader.null
        return hive }

def Hive.reader : Reader Hive :=
  Reader.variant Hive.variants

/-- The hive of this name. -/
def Hive.named (name : String) : Reader Hive :=
  Reader.bareVariant Hive.variants name

def Hive.print (hive : Hive) : List Char :=
  Print.string hive.name

/-! ### Values -/

/-- Raw data while its fields are being read. -/
structure RawFields where
  code : Option UInt32
  data : Option (List UInt8)

def RawFields.expected : String := "struct variant ConfigValue::Raw"

def RawFields.fields : List (Reader.Field RawFields) := [
  { name := "code"
    read := fun raw => do
      let code ← Reader.uint32
      return { raw with code := some code } },
  { name := "data"
    read := fun raw => do
      let data ← Reader.sequence Reader.uint8
      return { raw with data := some data } }]

/-- Both fields of raw data must be given. -/
def RawFields.value (raw : RawFields) : Except Mismatch Value :=
  match raw.code, raw.data with
  | none, _ => .error (.missingField "code")
  | some _, none => .error (.missingField "data")
  | some code, some data => .ok (.raw code data)

def Value.rawReader : Reader Value := do
  let short := fun n => some (Mismatch.wrongLength n (RawFields.expected ++ " with 2 elements"))
  let raw ← Reader.record RawFields.expected short RawFields.fields ⟨none, none⟩
  match raw.value with
  | .ok value => return value
  | .error m => Reader.mismatch m

/-- A variant whose body is read as it is and then wrapped. -/
def Value.wrapped {α : Type} (name : String) (body : Reader α) (wrap : α → Value) :
    Reader.Variant Value where
  name := name
  bare := .error (.wrongType .unitVariant "newtype variant")
  body := do
    let a ← body
    return wrap a

def Value.variants : List (Reader.Variant Value) := [
  Value.wrapped "String" Reader.string .string,
  Value.wrapped "ExpandString" Reader.string .expandString,
  Value.wrapped "MultiString" (Reader.sequence Reader.string) .multiString,
  Value.wrapped "DWord" Reader.uint32 .dword,
  Value.wrapped "QWord" Reader.uint64 .qword,
  Value.wrapped "Binary" (Reader.sequence Reader.uint8) .binary,
  { name := "Raw"
    bare := .error (.wrongType .unitVariant "struct variant")
    body := Value.rawReader }]

def Value.reader : Reader Value :=
  Reader.variant Value.variants

/-- The bytes of some data as a sequence of numbers. -/
def printBytes (data : List UInt8) : List Char :=
  Print.sequence (data.map fun b => Print.natural b.toNat)

def Value.print : Value → List Char
  | .string text => Print.object [("String", Print.string text)]
  | .expandString text => Print.object [("ExpandString", Print.string text)]
  | .multiString items =>
    Print.object [("MultiString", Print.sequence (items.map Print.string))]
  | .dword n => Print.object [("DWord", Print.natural n.toNat)]
  | .qword n => Print.object [("QWord", Print.natural n.toNat)]
  | .binary data => Print.object [("Binary", printBytes data)]
  | .raw code data =>
    Print.object [("Raw", Print.object
      [("code", Print.natural code.toNat), ("data", printBytes data)])]

end RuntimeLocator
