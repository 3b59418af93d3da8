/-
The seam of a join: what stands between the path and the component that was appended.

A join drops the leading separators of the component, and mostly the trailing ones of the path,
and puts one backslash in their place (`seam`). Behind a colon the path keeps its trailing
separators, as many and of whichever kind they are. So the seam is a single backslash unless
the path ends with a colon and then anything but nothing or one backslash
(`append_seam_iff`).
-/

import Mathlib.Data.List.DropRight
import RuntimeLocator.Proofs.Path.Components

namespace RuntimeLocator

namespace Path

/-! ### Sides -/

/-- A path up to its last character that is no separator. -/
def trunk (path : String) : String :=
  String.ofList (dropTrailing path.toList)

/-- The separators that a path ends with. -/
def ending (path : String) : String :=
  String.ofList (path.toList.rtakeWhile isSeparator)

/-- A component from its first character that is no separator on. -/
def stripped (component : String) : String :=
  String.ofList (component.toList.dropWhile isSeparator)

/-- The separators that a component begins with. -/
def leading (component : String) : String :=
  String.ofList (component.toList.takeWhile isSeparator)

/-- What stands between a path and a component that is appended to it. -/
def seam (path : String) : String :=
  if (trunk path).toList.getLast? = some ':' ∧ ending path ≠ "" then ending path else "\\"

/-- Some character of a text is no separator. -/
def IsVisible (text : String) : Prop :=
  ∃ c ∈ text.toList, isSeparator c = false

instance (text : String) : Decidable (IsVisible text) :=
  List.decidableBEx (fun c => isSeparator c = false) text.toList

/-- A path and a component come apart around their separators: the path into a trunk with a last
character that is no separator and the separators behind it, the component into the separators
before its first other character and the rest. -/
structure ComeApart (path component : String) : Prop where
  path_eq : trunk path ++ ending path = path
  last_trunk : ∃ c ∈ (trunk path).toList.getLast?, isSeparator c = false
  separate_ending : ∀ c ∈ (ending path).toList, isSeparator c = true
  component_eq : leading component ++ stripped component = component
  separate_leading : ∀ c ∈ (leading component).toList, isSeparator c = true
  first_stripped : ∃ c ∈ (stripped component).toList.head?, isSeparator c = false

section Sides

variable {path component : String}

theorem trunk_append_ending (path : String) : trunk path ++ ending path = path := by
  rw [trunk, ending, ← String.ofList_append, dropTrailing]
  exact (congrArg String.ofList List.rdropWhile_append_rtakeWhile).trans String.ofList_toList

theorem leading_append_stripped (component : String) :
    leading component ++ stripped component = component := by
  rw [leading, stripped, ← String.ofList_append]
  exact (congrArg String.ofList List.takeWhile_append_dropWhile).trans String.ofList_toList

theorem dropTrailing_ne_nil (visible : IsVisible path) : dropTrailing path.toList ≠ [] := by
  obtain ⟨c, mem, plain⟩ := visible
  exact List.ne_nil_of_mem ((mem_dropTrailing_iff plain path.toList).mpr mem)

theorem dropWhile_ne_nil (adds : IsVisible component) :
    component.toList.dropWhile isSeparator ≠ [] := by
  obtain ⟨c, mem, plain⟩ := adds
  exact List.ne_nil_of_mem ((mem_dropWhile_iff plain component.toList).mpr mem)

/-- A path is longer than its trunk if separators end it. -/
theorem length_dropTrailing_lt_iff :
    (dropTrailing path.toList).length < path.toList.length ↔ ending path ≠ "" := by
  have whole := congrArg (fun text : String => text.toList.length) (trunk_append_ending path)
  simp only [String.toList_append, List.length_append, trunk, String.toList_ofList] at whole
  rw [← whole, Nat.lt_add_right_iff_pos, List.length_pos_iff, ne_eq, ne_eq,
    String.toList_eq_nil_iff]

theorem comeApart (visible : IsVisible path) (adds : IsVisible component) :
    ComeApart path component where
  path_eq := trunk_append_ending path
  last_trunk := by
    have plain := List.rdropWhile_last_not isSeparator _ (dropTrailing_ne_nil visible)
    rw [trunk, String.toList_ofList]
    exact ⟨_, List.getLast?_eq_some_getLast _, Bool.eq_false_iff.mpr plain⟩
  separate_ending c mem := by
    rw [ending, String.toList_ofList] at mem
    exact List.mem_rtakeWhile_imp mem
  component_eq := leading_append_stripped component
  separate_leading c mem := by
    rw [leading, String.toList_ofList] at mem
    exact List.mem_takeWhile_imp mem
  first_stripped := by
    have plain := List.head_dropWhile_not isSeparator (dropWhile_ne_nil adds)
    rw [stripped, String.toList_ofList]
    exact ⟨_, List.head?_eq_some_head _, plain⟩

/-! ### Joins -/

/-- A join keeps its two sides and puts the seam between them. -/
theorem join_eq_seam (visible : IsVisible path) (adds : IsVisible component) :
    join path component = trunk path ++ seam path ++ stripped component := by
  have nonempty : path.toList ≠ [] := by
    obtain ⟨c, mem, -⟩ := visible
    exact List.ne_nil_of_mem mem
  have drive : (dropTrailing path.toList).getLast? = some ':' ∧
        (dropTrailing path.toList).length < path.toList.length ↔
      (trunk path).toList.getLast? = some ':' ∧ ending path ≠ "" := by
    rw [trunk, String.toList_ofList, length_dropTrailing_lt_iff]
  simp only [join, joinChars, if_neg (dropWhile_ne_nil adds), if_neg nonempty,
    or_iff_right (dropTrailing_ne_nil visible), drive, seam]
  split
  · rw [trunk_append_ending, String.ofList_append, String.ofList_toList, stripped]
  · rw [trunk, stripped, ← List.singleton_append, String.ofList_append, String.ofList_append,
      String.append_assoc]

/-- The seam is a single backslash, but behind a colon it is whatever separators stand there. -/
theorem seam_eq_backslash_iff :
    seam path = "\\" ↔
      ((trunk path).toList.getLast? = some ':' → ending path = "" ∨ ending path = "\\") := by
  rw [seam]
  split
  · rename_i drive
    rw [imp_iff_right drive.1, or_iff_right drive.2]
  · rename_i noDrive
    rw [not_and_not_right] at noDrive
    exact iff_of_true rfl fun colon => .inl (noDrive colon)

end Sides

end Path

/-- **Appending leaves one backslash between the two sides, unless the path ends with a colon and
other separators than one backslash.** Both sides are kept: the path up to its last character
that is no separator, and the component from its first such character on. What stands between
them is a single backslash, or the separators that the path had behind a colon. -/
theorem append_seam_iff {buffer next : PathBuffer} {component : String}
    (visible : Path.IsVisible buffer.path) (adds : Path.IsVisible component)
    (appends : buffer.append component = .ok next) :
    Path.ComeApart buffer.path component ∧
    next.path = Path.trunk buffer.path ++ Path.seam buffer.path ++ Path.stripped component ∧
    (next.path = Path.trunk buffer.path ++ "\\" ++ Path.stripped component ↔
      ((Path.trunk buffer.path).toList.getLast? = some ':' →
        Path.ending buffer.path = "" ∨ Path.ending buffer.path = "\\")) := by
  have joined : next.path =
      Path.trunk buffer.path ++ Path.seam buffer.path ++ Path.stripped component := by
    rw [(PathBuffer.append_eq_ok_iff.mp appends).1, Path.join_eq_seam visible adds]
  refine ⟨Path.comeApart visible adds, joined, ?_⟩
  rw [joined, ← Path.seam_eq_backslash_iff, ← String.toList_inj]
  simp only [String.toList_append, List.append_cancel_right_eq, List.append_cancel_left_eq,
    String.toList_inj]

/-- Separators of both kinds on both sides of a join, and a drive with one backslash. -/
theorem append_seam_iff_mixed :
    let buffer : PathBuffer := ⟨"D:/runtime/\\", 260, by decide⟩
    let next : PathBuffer := ⟨"D:/runtime\\WPF/", 260, by decide⟩
    let drive : PathBuffer := ⟨"C:\\", 7, by decide⟩
    let filled : PathBuffer := ⟨"C:\\WPF", 7, by decide⟩
    (Path.IsVisible buffer.path ∧ Path.IsVisible "\\/WPF/" ∧ buffer.append "\\/WPF/" = .ok next ∧
      next.path =
        Path.trunk buffer.path ++ Path.seam buffer.path ++ Path.stripped "\\/WPF/") ∧
    (Path.IsVisible drive.path ∧ Path.IsVisible "WPF" ∧ drive.append "WPF" = .ok filled ∧
      filled.path = Path.trunk drive.path ++ "\\" ++ Path.stripped "WPF") := by
  intro buffer next drive filled
  have visible : Path.IsVisible buffer.path := by decide
  have adds : Path.IsVisible "\\/WPF/" := by decide
  have appends : buffer.append "\\/WPF/" = .ok next := by decide
  have visibleDrive : Path.IsVisible drive.path := by decide
  have addsDrive : Path.IsVisible "WPF" := by decide
  have appendsDrive : drive.append "WPF" = .ok filled := by decide
  have lone : Path.ending drive.path = "\\" := by decide
  obtain ⟨-, joined, -⟩ := append_seam_iff visible adds appends
  obtain ⟨-, -, single⟩ := append_seam_iff visibleDrive addsDrive appendsDrive
  exact ⟨⟨visible, adds, appends, joined⟩, visibleDrive, addsDrive, appendsDrive,
    single.mpr fun _ => .inr lone⟩

/-- Behind a colon two backslashes stay two, and a slash stays a slash. -/
theorem append_keeps_separators :
    let doubled : PathBuffer := ⟨"C:\\\\", 260, by decide⟩
    let slashed : PathBuffer := ⟨"C:/", 260, by decide⟩
    (Path.IsVisible doubled.path ∧ Path.IsVisible slashed.path ∧ Path.IsVisible "WPF") ∧
    (doubled.append "WPF").map PathBuffer.path = .ok "C:\\\\WPF" ∧
    "C:\\\\WPF" ≠ Path.trunk doubled.path ++ "\\" ++ Path.stripped "WPF" ∧
    (slashed.append "WPF").map PathBuffer.path = .ok "C:/WPF" ∧
    "C:/WPF" ≠ Path.trunk slashed.path ++ "\\" ++ Path.stripped "WPF" := by
  decide

end RuntimeLocator
