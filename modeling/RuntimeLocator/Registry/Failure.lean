/-
Failures of a configuration store, and the status codes that stand for them.
-/

namespace RuntimeLocator

/-- Why a key could not be opened or a value could not be read. -/
inductive StoreFailure where
  /-- The key or the value does not exist. -/
  | notFound
  /-- A component of the key path does not exist. -/
  | pathNotFound
  /-- The key may not be opened for reading. -/
  | accessDenied
  /-- The value takes more bytes than were offered. -/
  | moreData (required available : UInt32)
  /-- Any other status, kept as it is. -/
  | platform (code : UInt32)
deriving DecidableEq

/-- The failure that a status code stands for. The code for a value that does not fit
comes without sizes. -/
def StoreFailure.ofCode (code : UInt32) : StoreFailure :=
  if code = 2 then .notFound
  else if code = 3 then .pathNotFound
  else if code = 5 then .accessDenied
  else if code = 234 then .moreData 0 0
  else .platform code

def StoreFailure.code : StoreFailure → UInt32
  | .notFound => 2
  | .pathNotFound => 3
  | .accessDenied => 5
  | .moreData .. => 234
  | .platform code => code

def StoreFailure.message : StoreFailure → String
  | .notFound => "configuration key or value not found"
  | .pathNotFound => "configuration key path not found"
  | .accessDenied => "access to the configuration key was denied"
  | .moreData required available =>
    "value needs " ++ toString required.toNat ++ " bytes but only " ++
      toString available.toNat ++ " were offered"
  | .platform code => "configuration store failed with status " ++ toString code.toNat

/-- A failure made from a status code keeps it. -/
theorem StoreFailure.code_ofCode (code : UInt32) : (StoreFailure.ofCode code).code = code := by
  unfold StoreFailure.ofCode
  repeat' split
  all_goals simp_all [StoreFailure.code]

/-- The signed result that a status code is reported as: the code itself when it is not
positive as a signed number, and its low half under the facility of the platform
otherwise. -/
def resultOfStatus (code : UInt32) : Int32 :=
  if code.toInt32 ≤ 0 then code.toInt32
  else ((code &&& 0xFFFF) ||| 0x80070000).toInt32

/-- The result for every want of memory. -/
def outOfMemoryResult : Int32 :=
  (0x8007000E : UInt32).toInt32

end RuntimeLocator
