/-
Resolution of the product's install directory.

A version pinned in the environment puts resolution on its override tiers: the root
comes from the environment too or, failing that, from the registered install root, and
the version is appended to it. Without a version the registered install path is the
root. The product directory is appended in every case, and the first failure is final.
-/

import RuntimeLocator.Lookup.ReadString
import RuntimeLocator.Path.Buffer
import RuntimeLocator.Settings

namespace RuntimeLocator

/-- The smallest capacity, in characters, that resolution accepts. -/
def minPathChars : Nat := 260

/-- The tier that supplied the root. -/
inductive RootSource where
  /-- Both override variables were set. -/
  | environmentOverride
  /-- A version was pinned, and the root is the registered install root. -/
  | registeredInstallRoot
  /-- No version was pinned, and the root is the registered install path. -/
  | registeredInstallPath
deriving DecidableEq

def RootSource.text : RootSource → String
  | .environmentOverride => "environment"
  | .registeredInstallRoot => "registered install root"
  | .registeredInstallPath => "registered install path"

/-- A resolved directory: its path, where the root came from, and the version pinned. -/
structure Resolution where
  path : String
  source : RootSource
  version : Option String
deriving DecidableEq

/-- The three lines that explain a resolution. -/
def Resolution.text (resolution : Resolution) : String :=
  "path = " ++ resolution.path ++ "\nsource = " ++ resolution.source.text ++
    "\nversion = " ++ resolution.version.getD "-"

/-- Composes the path of a resolution: the root, the version if one is pinned, and the
product directory. -/
def compose (settings : Settings) (maxChars : Nat) (source : RootSource)
    (version : Option String) (root : String) : Except LookupFailure Resolution := do
  let buffer ← PathBuffer.hold root maxChars
  let buffer ←
    match version with
    | none => .ok buffer
    | some version => buffer.append version
  let buffer ← buffer.append settings.productDirectory
  return ⟨buffer.path, source, version⟩

/-- Resolves the install directory into a buffer of `maxChars` characters. -/
def resolve (settings : Settings) (maxChars : Nat) :
    Script (Except LookupFailure Resolution) :=
  if maxChars < minPathChars then
    .done (.error (.bufferTooSmall maxChars minPathChars))
  else do
    match ← Script.nonEmptyVariable settings.versionVariable with
    | some version =>
      match ← Script.nonEmptyVariable settings.rootVariable with
      | some root => return compose settings maxChars .environmentOverride (some version) root
      | none =>
        let root ← readString settings.hive settings.installRootKey
          settings.installRootValue maxChars
        return root.bind (compose settings maxChars .registeredInstallRoot (some version))
    | none =>
      let root ← readString settings.hive settings.installPathKey
        settings.installPathValue maxChars
      return root.bind (compose settings maxChars .registeredInstallPath none)

end RuntimeLocator
