import Mathlib.Tactic.Lemma
import Mathlib.Tactic.Common
import TrafficDigest.FileSystem

/-!
# Writing a file

Writing changes the text at one location and nothing else (`Rewrites`), and what was written is read
back under the same path.  The second needs that the path still leads to the same location.  It
does: what were directories on the way still are, and the new file is not one of them, because
there was a file or nothing at its location (`walk_rewrites`, by induction on the names of the
path).

Where a path leads depends on which files there are, and on none of their texts (`walk_blank`).
-/

namespace TrafficDigest.FileSystem

variable {fs fs' : FileSystem} {here there : Location} {path name text : String} {place : Place}

/-! ## Entering a directory -/

/-- What is at a location. -/
def look (fs : FileSystem) (there : Location) : Place :=
  match fs.textAt? there with
  | some text => .file there text
  | none => if fs.isDirectory there then .directory there else .vacant there

/-- **Entering a directory** leads to another one that is always there, or to what is at the
location with one more name. -/
lemma enter_cases (h : fs.enter (.directory here) name = .ok place) :
    (∃ there, place = .directory there ∧
      ∀ fs' : FileSystem, fs'.enter (.directory here) name = .ok (.directory there)) ∨
    (place = fs.look (here ++ [name]) ∧
      ∀ fs' : FileSystem, fs'.enter (.directory here) name = .ok (fs'.look (here ++ [name]))) := by
  by_cases hpoint : name = "."
  · simp only [enter, hpoint, if_true, Except.ok.injEq] at h ⊢
    exact Or.inl ⟨here, h.symm, fun _ => rfl⟩
  by_cases hparent : name = Location.parent
  · have hsame : ∀ fs' : FileSystem,
        fs'.enter (.directory here) name = fs.enter (.directory here) name := by
      intro fs'
      simp only [enter, hparent, if_true]
    obtain ⟨there, rfl⟩ : ∃ there, place = .directory there := by
      rw [hparent] at h
      simp only [enter, reduceIte, show Location.parent ≠ "." by decide] at h
      split at h
      · exact ⟨_, (Except.ok.inj h).symm⟩
      · split at h <;> exact ⟨_, (Except.ok.inj h).symm⟩
    exact Or.inl ⟨there, rfl, fun fs' => (hsame fs').trans h⟩
  by_cases hlong : longestName < name.utf8ByteSize
  · simp only [enter, hpoint, hparent, hlong, if_true, if_false, reduceCtorEq] at h
  have hlook : ∀ fs' : FileSystem,
      fs'.enter (.directory here) name = .ok (fs'.look (here ++ [name])) := by
    intro fs'
    simp only [enter, hpoint, hparent, hlong, if_false, look]
    cases fs'.textAt? (here ++ [name]) <;> rfl
  rw [hlook fs, Except.ok.injEq] at h
  exact Or.inr ⟨h.symm, hlook⟩

/-- Where a place is that is no directory. -/
def Place.target? : Place → Option Location
  | .file here _ => some here
  | .vacant here => some here
  | .directory _ => none

lemma textAt?_of_look_eq_file (h : fs.look here = .file there text) :
    fs.textAt? here = some text := by
  unfold look at h
  split at h
  next text' htext =>
    cases h
    exact htext
  next => split at h <;> cases h

lemma textAt?_of_look_eq_vacant (h : fs.look here = .vacant there) : fs.textAt? here = none := by
  unfold look at h
  split at h
  next => cases h
  next hnone => exact hnone

lemma look_cases (fs : FileSystem) (there : Location) :
    fs.look there = .directory there ∨ (fs.look there).target? = some there := by
  unfold look
  split
  · exact Or.inr rfl
  · split
    · exact Or.inl rfl
    · exact Or.inr rfl

/-- From a place that is no directory there is no way on. -/
lemma of_foldlM_target {names : List String} {target : Place}
    (htarget : target.target? = some there) (h : names.foldlM fs.enter target = .ok place) :
    names = [] ∧ place = target := by
  cases names with
  | nil => exact ⟨rfl, (Except.ok.inj h).symm⟩
  | cons name names =>
      cases target with
      | directory => cases htarget
      | file => cases h
      | vacant => cases h

/-! ## Rewriting one file -/

/-- **A store differs from an earlier one by the text at one location.** -/
structure Rewrites (fs fs' : FileSystem) (here : Location) (text : String) : Prop where
  written : fs'.textAt? here = some text
  elsewhere : ∀ there, there ≠ here → fs'.textAt? there = fs.textAt? there
  directory : ∀ there, fs.isDirectory there = true → fs'.isDirectory there = true

namespace Rewrites

lemma look_here (h : Rewrites fs fs' here text) : fs'.look here = .file here text := by
  rw [look, h.written]

lemma look_directory (h : Rewrites fs fs' here text) (hlook : fs.look there = .directory there)
    (hne : there ≠ here) : fs'.look there = .directory there := by
  unfold look at hlook ⊢
  rw [h.elsewhere there hne]
  cases htext : fs.textAt? there with
  | some old =>
      rw [htext] at hlook
      cases hlook
  | none =>
      rw [htext] at hlook
      simp only at hlook ⊢
      split at hlook
      next hdirectory => rw [if_pos (h.directory there hdirectory)]
      next => cases hlook

end Rewrites

/-- **The way to a file** leads to it as well after it was rewritten. -/
lemma walk_rewrites {names : List String} {base : Location} (htarget : place.target? = some here)
    (h : names.foldlM fs.enter (.directory base) = .ok place) :
    place = fs.look here ∧ ∀ fs' text, Rewrites fs fs' here text →
      names.foldlM fs'.enter (.directory base) = .ok (.file here text) := by
  induction names generalizing base with
  | nil =>
      cases h
      cases htarget
  | cons name names ih =>
      rw [List.foldlM_cons] at h
      cases henter : fs.enter (.directory base) name with
      | error e =>
          rw [henter] at h
          cases h
      | ok next =>
          rw [henter] at h
          -- either way on, the names that are left start from a directory, or none is left
          rcases enter_cases henter with ⟨there, rfl, hsame⟩ | ⟨rfl, hlook⟩
          · refine ⟨(ih h).1, fun fs' text hrewrites => ?_⟩
            rw [List.foldlM_cons, hsame fs']
            exact (ih h).2 fs' text hrewrites
          rcases fs.look_cases (base ++ [name]) with hdirectory | hend
          · change names.foldlM fs.enter (fs.look (base ++ [name])) = _ at h
            rw [hdirectory] at h
            obtain ⟨hplace, hrest⟩ := ih h
            refine ⟨hplace, fun fs' text hrewrites => ?_⟩
            have hne : base ++ [name] ≠ here := by
              rintro rfl
              rw [hplace, hdirectory] at htarget
              cases htarget
            rw [List.foldlM_cons, hlook fs', hrewrites.look_directory hdirectory hne]
            exact hrest fs' text hrewrites
          · obtain ⟨rfl, rfl⟩ := of_foldlM_target hend h
            cases hend.symm.trans htarget
            refine ⟨rfl, fun fs' text hrewrites => ?_⟩
            rw [List.foldlM_cons, hlook fs', hrewrites.look_here]
            rfl

/-! ## Writing -/

/-- The text takes the place of what a list of files has at a location. -/
lemma lookup_replace (files : List (Location × String)) (here there : Location) (text : String) :
    (files.map fun file => if file.1 = here then (here, text) else file).lookup there =
      if there = here then (files.lookup here).map fun _ => text else files.lookup there := by
  induction files with
  | nil => simp
  | cons file files ih =>
      obtain ⟨place, old⟩ := file
      rw [List.map_cons]
      by_cases hplace : place = here
      · subst hplace
        by_cases hthere : there = place
        · simp [hthere]
        · simp only [if_true, List.lookup_cons, beq_eq_false_iff_ne.mpr hthere, ih]
          simp [hthere]
      · rw [if_neg hplace, List.lookup_cons, ih]
        have hne : (here == place) = false := beq_eq_false_iff_ne.mpr (Ne.symm hplace)
        by_cases hthere : there = here
        · subst hthere
          simp [List.lookup_cons, hne]
        · rw [if_neg hthere, if_neg hthere, List.lookup_cons]

lemma rewrites_replace {old : String} (hold : fs.textAt? here = some old) :
    Rewrites fs
      { fs with files := fs.files.map fun file => if file.1 = here then (here, text) else file }
      here text where
  written := by
    rw [textAt?] at hold ⊢
    rw [lookup_replace, if_pos rfl, hold, Option.map_some]
  elsewhere there hne := by
    rw [textAt?, textAt?, lookup_replace, if_neg hne]
  directory there h := by
    have hname : ∀ file : Location × String,
        (if file.1 = here then (here, text) else file).1 = file.1 := by
      intro file
      split
      next heq => exact heq.symm
      next => rfl
    simpa only [isDirectory, List.any_map, Function.comp_def, hname] using h

lemma rewrites_append (hnone : fs.textAt? here = none) :
    Rewrites fs { fs with files := fs.files ++ [(here, text)] } here text where
  written := by
    rw [textAt?] at hnone ⊢
    rw [List.lookup_append, hnone, Option.none_or, List.lookup_cons_self]
  elsewhere there hne := by
    rw [textAt?, textAt?, List.lookup_append, List.lookup_cons, beq_eq_false_iff_ne.mpr hne,
      List.lookup_nil, Option.or_none]
  directory there h := by
    simp only [isDirectory, List.any_append, Bool.or_eq_true] at h ⊢
    exact h.imp_right Or.inl

/-- A path that could be one leads where its names do. -/
lemma walk_eq_foldlM (fs : FileSystem) (names : List String) (hnul : path.contains '\x00' = false)
    (hlong : path.utf8ByteSize ≤ longestPath) (hempty : path ≠ "") :
    fs.walk path names = names.foldlM fs.enter (.directory (start path)) := by
  rw [walk, if_neg (Bool.eq_false_iff.mp hnul), if_neg (Nat.not_lt.mpr hlong), if_neg hempty]

lemma of_walk {names : List String} (h : fs.walk path names = .ok place) :
    names.foldlM fs.enter (.directory (start path)) = .ok place ∧
      ∀ fs' : FileSystem,
        fs'.walk path names = names.foldlM fs'.enter (.directory (start path)) := by
  unfold walk at h
  split at h
  · cases h
  split at h
  · cases h
  split at h
  · cases h
  next hnul hlong hempty =>
    exact ⟨h, fun fs' => fs'.walk_eq_foldlM names (Bool.eq_false_iff.mpr hnul)
      (Nat.not_lt.mp hlong) hempty⟩

/-- The text that was written is read back. -/
lemma read_of_walk (hplain : asksForDirectory path = false)
    (hwalk : fs.walk path (names path) = .ok place) (htarget : place.target? = some here)
    (h : Rewrites fs fs' here text) : fs'.read path = .ok text := by
  obtain ⟨hfold, hsame⟩ := of_walk hwalk
  rw [read, hsame fs', (walk_rewrites htarget hfold).2 fs' text h, hplain]
  rfl

/-- **Writing rewrites the file at one location**, and what was written is read back. -/
theorem exists_rewrites (h : fs.write path text = .ok fs') :
    (∃ here, Rewrites fs fs' here text) ∧ fs'.read path = .ok text := by
  unfold write at h
  split at h
  · split at h <;> cases h
  next hplain =>
    have hplain : asksForDirectory path = false := Bool.eq_false_iff.mpr hplain
    split at h
    next here old hwalk =>
      cases h
      have hlook : Place.file here old = fs.look here := (walk_rewrites rfl (of_walk hwalk).1).1
      have hrewrites : Rewrites fs _ here text :=
        rewrites_replace (textAt?_of_look_eq_file hlook.symm)
      exact ⟨⟨here, hrewrites⟩, read_of_walk hplain hwalk rfl hrewrites⟩
    next here hwalk =>
      cases h
      have hlook : Place.vacant here = fs.look here := (walk_rewrites rfl (of_walk hwalk).1).1
      have hrewrites : Rewrites fs _ here text :=
        rewrites_append (textAt?_of_look_eq_vacant hlook.symm)
      exact ⟨⟨here, hrewrites⟩, read_of_walk hplain hwalk rfl hrewrites⟩
    next => cases h
    next => cases h

/-! ## Files without their texts -/

/-- The same files, all of them empty. -/
def blank (fs : FileSystem) : FileSystem :=
  { fs with files := fs.files.map fun file => (file.1, "") }

/-- The same place, without the text of a file. -/
def Place.blank : Place → Place
  | .file here _ => .file here ""
  | .vacant here => .vacant here
  | .directory here => .directory here

lemma textAt?_blank (fs : FileSystem) (there : Location) :
    fs.blank.textAt? there = (fs.textAt? there).map fun _ => "" := by
  rw [textAt?, textAt?, blank]
  induction fs.files with
  | nil => rfl
  | cons file files ih =>
      rw [List.map_cons, List.lookup_cons, List.lookup_cons, ih]
      split <;> rfl

lemma isDirectory_blank (fs : FileSystem) (there : Location) :
    fs.blank.isDirectory there = fs.isDirectory there := by
  simp only [isDirectory, blank, List.any_map, Function.comp_def]

lemma enter_blank (fs : FileSystem) (place : Place) (name : String) :
    fs.blank.enter place.blank name = (fs.enter place name).map Place.blank := by
  cases place with
  | file => rfl
  | vacant => rfl
  | directory here =>
      simp only [Place.blank, enter, textAt?_blank, isDirectory_blank]
      split_ifs <;> try rfl
      all_goals cases fs.textAt? (here ++ [name]) <;> rfl

/-- A path leads to the same place, whatever the texts are. -/
lemma walk_blank (fs : FileSystem) (path : String) (names : List String) :
    fs.blank.walk path names = (fs.walk path names).map Place.blank := by
  have hfold (place : Place) :
      names.foldlM fs.blank.enter place.blank = (names.foldlM fs.enter place).map Place.blank := by
    induction names generalizing place with
    | nil => rfl
    | cons name names ih =>
        rw [List.foldlM_cons, List.foldlM_cons, enter_blank]
        cases fs.enter place name with
        | error e => rfl
        | ok next => exact ih next
  rw [walk, walk]
  split_ifs
  · rfl
  · rfl
  · rfl
  · exact hfold (.directory (start path))

/-- **Where a text is written, and whether it can be,** does not depend on any text. -/
theorem write_blank (fs : FileSystem) (path text : String) :
    fs.blank.write path "" = (fs.write path text).map blank := by
  simp only [write, walk_blank]
  split_ifs with hdirectory
  · cases fs.walk path ((names path).dropLast ++ ["."]) <;> rfl
  · rcases fs.walk path (names path) with fault | ⟨here, old⟩ | here | here
    · rfl
    · have hfile (file : Location × String) :
          (if file.1 = here then (here, "") else (file.1, ""))
            = ((if file.1 = here then (here, text) else file).1, "") := by
        split_ifs <;> rfl
      simp only [Except.map, Place.blank, blank, List.map_map, Function.comp_def, hfile]
    · rfl
    · simp only [Except.map, Place.blank, blank, List.map_append, List.map_cons, List.map_nil]

/-- A file that cannot be written in one store cannot be in another with the same files. -/
lemma write_eq_error_of_blank (hblank : fs.blank = fs'.blank) {fault : FileFault}
    (h : fs.write path text = .error fault) (text' : String) :
    fs'.write path text' = .error fault := by
  have hwrite := write_blank fs' path text'
  rw [← hblank, write_blank fs path text, h] at hwrite
  cases hresult : fs'.write path text' with
  | error fault' =>
      rw [hresult] at hwrite
      cases hwrite
      rfl
  | ok gs =>
      rw [hresult] at hwrite
      cases hwrite

/-- A file that can be written in one store can be in another with the same files. -/
lemma exists_write_of_blank (hblank : fs.blank = fs'.blank) {gs : FileSystem}
    (h : fs.write path text = .ok gs) (text' : String) :
    ∃ gs', fs'.write path text' = .ok gs' := by
  cases hresult : fs'.write path text' with
  | error fault => cases h.symm.trans (write_eq_error_of_blank hblank.symm hresult text)
  | ok gs' => exact ⟨gs', rfl⟩

/-! ## The same in two stores -/

/-- **Two stores became two others by the same writes,** the same texts under the same paths. -/
inductive SameWrites (fs fs' : FileSystem) : FileSystem → FileSystem → Prop
  | none : SameWrites fs fs' fs fs'
  | write {gs gs' hs hs' : FileSystem} {path text : String} (h : SameWrites fs fs' gs gs')
      (hwrite : gs.write path text = .ok hs) (hwrite' : gs'.write path text = .ok hs') :
      SameWrites fs fs' hs hs'

/-- The same writes to one store give one store. -/
lemma SameWrites.eq {gs gs' : FileSystem} (h : SameWrites fs fs gs gs') : gs = gs' := by
  induction h with
  | none => rfl
  | write _ hwrite hwrite' ih =>
      rw [ih] at hwrite
      exact Except.ok.inj (hwrite.symm.trans hwrite')

/-- The same writes keep the same files. -/
lemma SameWrites.blank_eq {gs gs' : FileSystem} (hblank : fs.blank = fs'.blank)
    (h : SameWrites fs fs' gs gs') : gs.blank = gs'.blank := by
  induction h with
  | none => exact hblank
  | @write gs gs' hs hs' path text _ hwrite hwrite' ih =>
      have hresult := write_blank gs path text
      rw [ih, write_blank gs' path text, hwrite, hwrite'] at hresult
      exact (Except.ok.inj hresult).symm

end TrafficDigest.FileSystem
