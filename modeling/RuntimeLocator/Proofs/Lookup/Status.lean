/-
Statuses of a store, from the call that fails to what the user is told.

A store tells by a status why it did not open a key or did not answer a query. A read stops
at that failure, and so does a resolution whose tier asks the store
(`answer_readString_of_failsRead`, `answer_resolve_of_failsRead`). What is reported of it is
the signed result of the status. `resultOfStatus` computes it by masks on 32 bits;
`toInt_resultOfStatus` says in numbers which result that is, and `status_survives` puts the
two together.
-/

import RuntimeLocator.Cli.Failure
import RuntimeLocator.Proofs.Lookup.Answers

namespace RuntimeLocator

open Script

/-! ### Results of statuses -/

/-- The number that 32 bits stand for when they are read as signed. -/
def signedNumber (bits : Nat) : Int :=
  if bits < 0x80000000 then bits else bits - 0x100000000

section Results

variable {status : UInt32}

theorem toInt_toInt32 (status : UInt32) :
    status.toInt32.toInt = signedNumber status.toNat := by
  have reads : status.toInt32.toInt =
      if 2 * status.toNat < 2 ^ 32 then (status.toNat : Int) else status.toNat - 2 ^ 32 :=
    BitVec.toInt_eq_toNat_cond status.toBitVec
  rw [reads, signedNumber]
  split
  · rw [if_pos (by omega)]
  · rw [if_neg (by omega)]
    rfl

theorem signedNumber_eq_zero_iff : signedNumber status.toNat = 0 ↔ status = 0 := by
  have bound := status.toNat_lt
  rw [← UInt32.toNat_inj, UInt32.toNat_zero, signedNumber]
  split
  · omega
  · omega

/-- A number of 16 bits under the facility of the platform. -/
theorem signedNumber_facility {low : Nat} (small : low < 0x10000) :
    signedNumber (0x80070000 ||| low) = low - 0x7FF90000 := by
  have sum : 0x80070000 ||| low = 0x80070000 + low :=
    (Nat.two_pow_add_eq_or_of_lt (i := 16) small 0x8007).symm
  rw [sum, signedNumber, if_neg (by omega)]
  omega

theorem toNat_facility (status : UInt32) :
    ((status &&& 0xFFFF) ||| 0x80070000).toNat = 0x80070000 ||| status.toNat % 0x10000 := by
  have low : (status &&& 0xFFFF).toNat = status.toNat % 0x10000 := by
    rw [UInt32.toNat_and]
    exact Nat.and_two_pow_sub_one_eq_mod status.toNat 16
  rw [UInt32.toNat_or, low, Nat.or_comm]
  rfl

theorem toInt32_le_zero_iff : status.toInt32 ≤ 0 ↔ signedNumber status.toNat ≤ 0 := by
  rw [Int32.le_iff_toInt_le, toInt_toInt32]
  exact Iff.rfl

/-- The result of a status in numbers. -/
theorem toInt_resultOfStatus (status : UInt32) :
    (resultOfStatus status).toInt =
      if signedNumber status.toNat ≤ 0 then signedNumber status.toNat
      else signedNumber (0x80070000 ||| status.toNat % 0x10000) := by
  rw [resultOfStatus]
  by_cases nonpos : status.toInt32 ≤ 0
  · rw [if_pos nonpos, if_pos (toInt32_le_zero_iff.mp nonpos), toInt_toInt32]
  · rw [if_neg nonpos, if_neg (mt toInt32_le_zero_iff.mpr nonpos), toInt_toInt32, toNat_facility]

/-- Every status but that of success has a negative result, so no failure is reported as a
success. -/
theorem toInt_resultOfStatus_neg_iff : (resultOfStatus status).toInt < 0 ↔ status ≠ 0 := by
  rw [toInt_resultOfStatus, ne_eq, ← signedNumber_eq_zero_iff]
  split
  · omega
  · -- Under the facility the number is negative whatever the low half of the status is.
    have small : status.toNat % 0x10000 < 0x10000 := Nat.mod_lt _ (by decide)
    rw [signedNumber_facility small]
    omega

theorem toInt_resultOfStatus_le_zero (status : UInt32) : (resultOfStatus status).toInt ≤ 0 := by
  by_cases success : status = 0
  · subst success
    decide
  · exact Int.le_of_lt (toInt_resultOfStatus_neg_iff.mpr success)

/-- The result of a result is that result, since no result is positive. -/
theorem resultOfStatus_toUInt32_resultOfStatus (status : UInt32) :
    resultOfStatus (resultOfStatus status).toUInt32 = resultOfStatus status := by
  have nonpos : resultOfStatus status ≤ 0 :=
    Int32.le_iff_toInt_le.mpr (toInt_resultOfStatus_le_zero status)
  rw [resultOfStatus, Int32.toInt32_toUInt32, if_pos nonpos]

end Results

/-! ### What is reported of a status -/

/-- A failure reports a status: it has this status, so it is no want of memory, and it is
reported as the result of the status. Only the status of success has a result that is not
negative, and a result that is taken for a status once more stays as it is. A run that ends
with the failure reports this result too, and exits as one in which a lookup failed. -/
structure LookupFailure.Reports (failure : LookupFailure) (status : UInt32) : Prop where
  status_eq : failure.status = some status
  not_isOutOfMemory : failure.isOutOfMemory = false
  toInt_result : failure.result.toInt =
    if signedNumber status.toNat ≤ 0 then signedNumber status.toNat
    else signedNumber (0x80070000 ||| status.toNat % 0x10000)
  result_neg_iff : failure.result < 0 ↔ status ≠ 0
  resultOfStatus_result : resultOfStatus failure.result.toUInt32 = failure.result
  told : (Cli.Failure.lookup failure).result = some failure.result
  exitCode : (Cli.Failure.lookup failure).exitCode = 1

theorem reports_store_ofCode (status : UInt32) :
    (LookupFailure.store (.ofCode status)).Reports status := by
  have kept : (LookupFailure.store (.ofCode status)).status = some status :=
    congrArg some (StoreFailure.code_ofCode status)
  have reported : (LookupFailure.store (.ofCode status)).result = resultOfStatus status := by
    rw [LookupFailure.result, kept]
  constructor
  case status_eq => exact kept
  case not_isOutOfMemory => rfl
  case toInt_result => rw [reported, toInt_resultOfStatus]
  case result_neg_iff =>
    rw [reported, Int32.lt_iff_toInt_lt, ← toInt_resultOfStatus_neg_iff]
    exact Iff.rfl
  case resultOfStatus_result => rw [reported, resultOfStatus_toUInt32_resultOfStatus]
  case told => rfl
  case exitCode => rfl

/-! ### Failed reads -/

section Runs

variable {σ : Type} {host : Host σ} {hive : Hive} {keyPath valueName : String} {maxChars : Nat}
  {start opened : σ} {failure : StoreFailure} {settings : Settings}

/-- A store fails a read: it does not open the key, or it opens the key and then fails the
query. -/
inductive Script.Host.FailsRead (host : Host σ) (hive : Hive) (keyPath valueName : String)
    (maxChars : Nat) (start : σ) (failure : StoreFailure) : Prop where
  | opening {final : σ}
      (opens : host.reply (.openKey hive keyPath) start = (Except.error failure, final))
  | query (answers : host.AnswersRead hive keyPath valueName maxChars start (.error failure))

theorem answer_readString_of_failsRead (fits : maxChars ≤ 2147483647)
    (fails : host.FailsRead hive keyPath valueName maxChars start failure) :
    ((readString hive keyPath valueName maxChars).run host start).answer =
      .error (.store failure) := by
  cases fails with
  | opening opens => rw [run_readString_of_reads (.openFails fits opens)]
  | query answers =>
    obtain ⟨maxBytes, opened, queried, offers, opens, queries⟩ := answers
    rw [run_readString_of_reads (.queryFails fits offers opens queries)]

/-- The tier that wins asks the store: for which value, and in which state the host is then. -/
inductive Script.Host.Consults (host : Host σ) (settings : Settings) (start : σ) :
    String → String → σ → Prop where
  | installRoot {version : String} {asked opened : σ}
      (pinned : host.Gives settings.versionVariable start version asked)
      (withheld : host.Withholds settings.rootVariable asked opened) :
      Consults host settings start settings.installRootKey settings.installRootValue opened
  | installPath {opened : σ} (unpinned : host.Withholds settings.versionVariable start opened) :
      Consults host settings start settings.installPathKey settings.installPathValue opened

/-- A resolution whose tier asks the store is at its end with a read that fails. -/
theorem answer_resolve_of_failsRead (large : 260 ≤ maxChars) (fits : maxChars ≤ 2147483647)
    (consults : host.Consults settings start keyPath valueName opened)
    (fails : host.FailsRead settings.hive keyPath valueName maxChars opened failure) :
    ((resolve settings maxChars).run host start).answer = .error (.store failure) := by
  let read := (readString settings.hive keyPath valueName maxChars).run host opened
  have failed : read.answer = .error (.store failure) := answer_readString_of_failsRead fits fails
  -- The tier is described by the whole run of its read, calls and state included.
  have reads : read = ⟨.error (.store failure), read.calls, read.state⟩ := by rw [← failed]
  cases consults with
  | installRoot pinned withheld =>
    have consulted := Consulted.registeredInstallRoot pinned withheld reads
    rw [run_resolve_of_resolves (.readFails large consulted)]
  | installPath unpinned =>
    have consulted := Consulted.registeredInstallPath unpinned reads
    rw [run_resolve_of_resolves (.readFails large consulted)]

/-- **The status of a store survives every layer above it.** Where a store fails to open a key
or to answer a query, and says so by a status, a read ends with that failure, and so does a
resolution whose tier asks the store. Whatever the status is, the failure reports it. -/
theorem status_survives (host : Host σ) (status : UInt32) :
    (∀ (hive : Hive) (keyPath valueName : String) (maxChars : Nat) (start : σ),
      maxChars ≤ 2147483647 →
      host.FailsRead hive keyPath valueName maxChars start (.ofCode status) →
      ((readString hive keyPath valueName maxChars).run host start).answer =
        .error (.store (.ofCode status))) ∧
    (∀ (settings : Settings) (maxChars : Nat) (start opened : σ) (keyPath valueName : String),
      260 ≤ maxChars → maxChars ≤ 2147483647 →
      host.Consults settings start keyPath valueName opened →
      host.FailsRead settings.hive keyPath valueName maxChars opened (.ofCode status) →
      ((resolve settings maxChars).run host start).answer =
        .error (.store (.ofCode status))) ∧
    (LookupFailure.store (.ofCode status)).Reports status := by
  refine ⟨?_, ?_, reports_store_ofCode status⟩
  · intro hive keyPath valueName maxChars start fits fails
    exact answer_readString_of_failsRead fits fails
  · intro settings maxChars start opened keyPath valueName large fits consults fails
    exact answer_resolve_of_failsRead large fits consults fails

end Runs

/-- A store whose keys answer every query by a status of more than 16 bits, read by the tier of
the install root. -/
theorem status_survives_wide :
    let host := (Store.answering (.error (.ofCode 0x12345))).host (.ofPairs [("V", "4.0")])
    let start : HostState := ⟨.zero, none⟩
    host.Consults briefSettings start "Fw" "Root" start ∧
      host.FailsRead .localMachine "Fw" "Root" 260 start (.ofCode 0x12345) ∧
      ((readString .localMachine "Fw" "Root" 260).run host start).answer =
        .error (.store (.ofCode 0x12345)) ∧
      ((resolve briefSettings 260).run host start).answer = .error (.store (.ofCode 0x12345)) ∧
      (LookupFailure.store (.ofCode 0x12345)).Reports 0x12345 ∧
      (LookupFailure.store (.ofCode 0x12345)).result = (0x80072345 : UInt32).toInt32 := by
  intro host start
  have consults : host.Consults briefSettings start "Fw" "Root" start :=
    .installRoot ⟨rfl, by decide⟩ (.inl rfl)
  have fails : host.FailsRead .localMachine "Fw" "Root" 260 start (.ofCode 0x12345) :=
    .query ⟨520, _, _, rfl, rfl, rfl⟩
  obtain ⟨reads, resolves, reports⟩ := status_survives host 0x12345
  exact ⟨consults, fails, reads _ _ _ _ _ (by decide) fails,
    resolves _ _ _ _ _ _ (by decide) (by decide) consults fails, reports, by decide⟩

end RuntimeLocator
