/-
Spellings of key paths: which of them fold alike.
-/

import Mathlib.Data.List.DropRight
import RuntimeLocator.Registry.Basic

namespace RuntimeLocator

/-- A text from which nothing can be dropped at the front begins no text from which
something can. -/
theorem dropWhile_of_prefix {p : Char → Bool} {chars front : List Char}
    (begins : front <+: chars.dropWhile p) : front.dropWhile p = front := by
  cases front with
  | nil => rfl
  | cons c front =>
    obtain ⟨rest, whole⟩ := begins
    have stays := List.head?_dropWhile_not p chars
    rw [← whole] at stays
    exact List.dropWhile_cons_of_neg (by simpa using stays)

theorem trimPath_eq (path : String) :
    trimPath path =
      String.ofList ((path.toList.dropWhile (· == '\\')).rdropWhile (· == '\\')) := rfl

theorem toList_trimPath (path : String) :
    (trimPath path).toList = (path.toList.dropWhile (· == '\\')).rdropWhile (· == '\\') :=
  String.toList_ofList

/-- Trimming leaves no backslash to trim. -/
@[simp] theorem trimPath_trimPath (path : String) : trimPath (trimPath path) = trimPath path := by
  have trimmed := toList_trimPath path
  have front : (trimPath path).toList.dropWhile (· == '\\') = (trimPath path).toList := by
    rw [trimmed]
    exact dropWhile_of_prefix (List.rdropWhile_prefix _ _)
  calc trimPath (trimPath path)
    _ = String.ofList (((trimPath path).toList.dropWhile (· == '\\')).rdropWhile (· == '\\')) :=
      trimPath_eq _
    _ = String.ofList ((trimPath path).toList.rdropWhile (· == '\\')) := by rw [front]
    _ = String.ofList (trimPath path).toList := by rw [trimmed, List.rdropWhile_idempotent]
    _ = trimPath path := String.ofList_toList

/-- A path folds like its trimmed spelling. -/
@[simp] theorem foldPath_trimPath (path : String) : foldPath (trimPath path) = foldPath path := by
  rw [foldPath, foldPath, trimPath_trimPath]

end RuntimeLocator
