/-
Settings that were written are read back.

The fields are written in the order in which a record reads them, so each field is filled
by its own member, whatever the settings held before (`Settings.takes_item`). As every
field is written, nothing of the standard settings stays.
-/

import RuntimeLocator.Proofs.Registry.Snapshot
import RuntimeLocator.Settings.Json

namespace RuntimeLocator.Settings

open Json

/-- The field of an item takes the text that is written for the item, into any settings. -/
theorem takes_item (written before : Settings) (item : Item) :
    ((itemField item).read before).Takes (written.itemMember item).2
      (before.set item (written.get item)) :=
  (Reader.takes_string _).map _

theorem takes_hive (before : Settings) (hive : Hive) :
    (hiveField.read before).Takes hive.print { before with hive } :=
  hive.takes.map _

theorem fills_print (settings : Settings) :
    Reader.Fills fields [
      settings.itemMember .versionVariable,
      settings.itemMember .rootVariable,
      ("hive", settings.hive.print),
      settings.itemMember .installRootKey,
      settings.itemMember .installRootValue,
      settings.itemMember .installPathKey,
      settings.itemMember .installPathValue,
      settings.itemMember .productDirectory] .standard settings := by
  -- With the fields named, each is compared with what was set for it and nothing more.
  cases settings
  exact
    .next (takes_item _ _ .versionVariable) <|
    .next (takes_item _ _ .rootVariable) <|
    .next (takes_hive _ _) <|
    .next (takes_item _ _ .installRootKey) <|
    .next (takes_item _ _ .installRootValue) <|
    .next (takes_item _ _ .installPathKey) <|
    .next (takes_item _ _ .installPathValue) <|
    .next (takes_item _ _ .productDirectory) .done

theorem takes (settings : Settings) : reader.Takes settings.print settings :=
  Reader.takes_record (by decide) settings.fills_print

/-- The settings of a text are those that it was written of. -/
theorem ofJson_toJson (settings : Settings) : ofJson settings.toJson = .ok settings :=
  Reader.decode_of_takes settings.takes

end RuntimeLocator.Settings
