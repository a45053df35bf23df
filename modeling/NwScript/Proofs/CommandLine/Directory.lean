/-
# Files of a described directory

Which place a path leads to does not depend on the files of the directory; only why
it leads nowhere does. So a path leads to the same place after a file was made or
changed, the file that it leads to holds what was put into it last, and every other
file holds what it held.
-/

import NwScript.CommandLine.Directory
import NwScript.Proofs.Outcome

namespace NwScript.CommandLine.Directory

section Files

/-- A file that is put is found. -/
@[simp]
theorem find?_put_self (d : Directory) (name : String) (content : List UInt8) :
    (d.put name content).find? name = some content := by
  simp [find?, put]

/-- The other files are found as they were. -/
theorem find?_put_of_ne (d : Directory) {name other : String} (h : other ≠ name)
    (content : List UInt8) : (d.put name content).find? other = d.find? other := by
  have hother : (other == name) = false := by simpa using h
  have hkept (files : List (String × List UInt8)) :
      (files.filter fun entry => entry.1 != name).lookup other = files.lookup other := by
    induction files with
    | nil => rfl
    | cons entry rest ih =>
        obtain ⟨key, held⟩ := entry
        by_cases hkey : key = name
        · simp [hkey, List.lookup_cons, ih, hother]
        · simp [hkey, List.lookup_cons, ih]
  simp only [find?, put, List.lookup_cons, hother, hkept]

end Files

section Places

variable (d other : Directory)

/-- Whether one can go on from a place does not depend on the files. -/
theorem obstacle?_eq_none_iff {spot : Spot} :
    d.obstacle? spot = none ↔ other.obstacle? spot = none := by
  cases spot <;> simp [obstacle?]

variable {d}

/-- A name that can be followed leads to the same place with other files. -/
theorem enter_eq_ok {spot next : Spot} {name : String} (h : d.enter spot name = .ok next) :
    other.enter spot name = .ok next := by
  rw [enter] at h ⊢
  cases hspot : d.obstacle? spot with
  | some fault =>
      rw [hspot] at h
      cases h
  | none =>
      rw [hspot] at h
      rw [(obstacle?_eq_none_iff d other).mp hspot]
      exact h

/-- So do names that can be followed one after the other. -/
theorem foldlM_enter_eq_ok {path : List String} {spot last : Spot}
    (h : path.foldlM d.enter spot = .ok last) : path.foldlM other.enter spot = .ok last := by
  induction path generalizing spot with
  | nil => exact h
  | cons name rest ih =>
      rw [List.foldlM_cons] at h ⊢
      obtain ⟨next, hnext, hrest⟩ := bind_eq_ok_iff.mp h
      rw [enter_eq_ok other hnext]
      exact ih hrest

/-- And so does a path. -/
theorem locate_eq_ok {path : String} {spot : Spot} (h : d.locate path = .ok spot) :
    other.locate path = .ok spot := by
  unfold locate at h ⊢
  by_cases hlength : pathLimit < path.utf8ByteSize
  · simp only [if_pos hlength] at h
    cases h
  · simp only [if_neg hlength] at h ⊢
    obtain ⟨last, hlast, hfound⟩ := bind_eq_ok_iff.mp h
    rw [foldlM_enter_eq_ok other hlast, ok_bind]
    cases hend : d.obstacle? last with
    | none =>
        rw [hend] at hfound
        rw [(obstacle?_eq_none_iff d other).mp hend]
        exact hfound
    | some fault =>
        -- A slash at the end would have been refused.
        rw [hend] at hfound
        obtain ⟨obstacle, hobstacle⟩ : ∃ obstacle, other.obstacle? last = some obstacle := by
          rw [← Option.ne_none_iff_exists']
          intro hnone
          rw [(obstacle?_eq_none_iff d other).mpr hnone] at hend
          cases hend
        rw [hobstacle]
        by_cases hslash : path.endsWith "/"
        · simp only [if_pos hslash] at hfound
          cases hfound
        · simp only [if_neg hslash] at hfound ⊢
          exact hfound

end Places

section Contents

/-- A file can be made on a path, and it is not the one that another path leads to. -/
def CanFill (d : Directory) (source path : String) : Prop :=
  ∃ name made, d.locate path = .ok (.file name) ∧ d.locate source ≠ .ok (.file name) ∧
    d.create path = .ok made

variable {d : Directory} {path name : String}

/-- Where a path leads to a file, its contents are read. -/
theorem contents_of_find? {content : List UInt8} (located : d.locate path = .ok (.file name))
    (found : d.find? name = some content) : d.contents path = .ok content := by
  rw [contents, located]
  simp only [found]

/-- A file that is made is empty. -/
theorem eq_put_of_create {made : Directory} (located : d.locate path = .ok (.file name))
    (created : d.create path = .ok made) : made = d.put name [] := by
  unfold create at created
  by_cases hasks : (asksForDirectory path && decide (path.utf8ByteSize ≤ pathLimit)) = true
  · simp only [if_pos hasks] at created
    obtain ⟨_, _, hrefused⟩ := bind_eq_ok_iff.mp created
    cases hrefused
  · simp only [if_neg hasks, located] at created
    cases created
    rfl

/-- On a path to a file that asks for no directory, the file can be made. -/
theorem create_eq_put (located : d.locate path = .ok (.file name))
    (hasks : asksForDirectory path = false) : d.create path = .ok (d.put name []) := by
  rw [create, hasks, located]
  rfl

/-- A text that is written into a file is all that the file holds. -/
theorem write_eq_put (located : d.locate path = .ok (.file name)) (text : String) :
    d.write path text = .ok (d.put name (Text.utf8Bytes text)) := by
  rw [write, located]

/-- What is read along a path stays as it is when another file is put. -/
theorem contents_put {bytes : List UInt8} (held : d.contents path = .ok bytes)
    (apart : d.locate path ≠ .ok (.file name)) (content : List UInt8) :
    (d.put name content).contents path = .ok bytes := by
  rw [contents] at held
  cases hspot : d.locate path with
  | error fault =>
      rw [hspot] at held
      cases held
  | ok spot =>
      rw [hspot] at held
      rw [contents, locate_eq_ok (d.put name content) hspot]
      cases spot with
      | file other =>
          have hother : other ≠ name := by
            rintro rfl
            exact apart hspot
          simp only [find?_put_of_ne d hother]
          exact held
      | _ => exact held

end Contents

end NwScript.CommandLine.Directory
