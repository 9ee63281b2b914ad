import TrafficDigest.Json.Reader
import TrafficDigest.Proofs.Json.Spelling

/-!
# Documents and their values

Which tokens a value is written with is a function of the value (`tokenList`), and a text that
spells them is a written form of it (`WrittenAs`); white space, and the spelling of strings, are the
freedom that is left.  `read?_eq_some_iff` says that a text is read as a value exactly if it is a
written form of the value.

* A value is read from its tokens wherever one is expected: `ReaderState.readsBack`, by induction on
  how the value is nested.
* What has been read up to a state of the reader can be told from the state (`ReaderState.written`),
  and a token adds itself to it: `ReaderState.written_step`.
-/

namespace TrafficDigest.Json

/-- **Induction on how values are nested.** -/
@[elab_as_elim]
theorem induction {P : Json → Prop} (null : P .null) (bool : ∀ b, P (.bool b))
    (number : ∀ literal, P (.number literal)) (string : ∀ text, P (.string text))
    (array : ∀ items, (∀ v ∈ items, P v) → P (.array items))
    (object : ∀ members, (∀ m ∈ members, P m.2) → P (.object members)) (v : Json) : P v := by
  match v with
  | .null => exact null
  | .bool b => exact bool b
  | .number literal => exact number literal
  | .string text => exact string text
  | .array items =>
      refine array items fun v hv => ?_
      have hsize := List.sizeOf_lt_of_mem hv
      exact induction null bool number string array object v
  | .object members =>
      refine object members fun m hm => ?_
      have hsize := List.sizeOf_lt_of_mem hm
      exact induction null bool number string array object m.2
termination_by sizeOf v
decreasing_by
  · simp only [Json.array.sizeOf_spec]
    omega
  · have hpair : sizeOf m = 1 + sizeOf m.1 + sizeOf m.2 := rfl
    simp only [Json.object.sizeOf_spec]
    omega

/-! ## The tokens of a value -/

/-- Runs of tokens with a comma between each two. -/
def commaSeparated (runs : List (List Token)) : List Token := [.comma].intercalate runs

mutual

/-- **The tokens that a value is written with.** -/
def tokenList : Json → List Token
  | null => [.null]
  | bool b => [.bool b]
  | number literal => [.number literal]
  | string text => [.string text]
  | array items => .openArray :: (commaSeparated (itemTokens items) ++ [.closeArray])
  | object members =>
    .openObject :: (commaSeparated (memberTokens members) ++ [.closeObject])

/-- The tokens of the items of an array. -/
def itemTokens : List Json → List (List Token)
  | [] => []
  | item :: items => item.tokenList :: itemTokens items

/-- The tokens of the members of an object. -/
def memberTokens : List (Option String × Json) → List (List Token)
  | [] => []
  | (name, value) :: members =>
    (.string name :: .colon :: value.tokenList) :: memberTokens members

end

lemma commaSeparated_singleton (run : List Token) : commaSeparated [run] = run :=
  List.intercalate_singleton

lemma commaSeparated_cons_cons (run next : List Token) (runs : List (List Token)) :
    commaSeparated (run :: next :: runs) = run ++ .comma :: commaSeparated (next :: runs) := by
  rw [commaSeparated, List.intercalate_cons_cons, List.append_assoc]
  rfl

/-- **The text is a written form of the value.** -/
def WrittenAs (v : Json) (text : String) : Prop := Spelled v.tokenList text.toList

namespace ReaderState

/-! ## From values to tokens -/

/-- A value is expected. -/
def AwaitsValue (s : ReaderState) : Prop := s.expected = .value ∨ s.expected = .firstItem

lemma step_of_awaits {s : ReaderState} (h : s.AwaitsValue) {t : Token} (ht : t ≠ .closeArray) :
    step s t = beginValue s.containers t := by
  obtain ⟨containers, expected⟩ := s
  obtain rfl | rfl := h
  · rfl
  · simp only [step]
    split
    · exact absurd rfl ht
    · rfl

/-- A name is expected, or the first member may come. -/
def AwaitsMember (s : ReaderState) (before : List (Option String × Json)) : Prop :=
  s.expected = .firstMember before ∨ s.expected = .member before

/-- The name of a member leads to its value. -/
lemma foldlM_name {s : ReaderState} {before : List (Option String × Json)}
    (h : s.AwaitsMember before) (name : Option String) (ts : List Token) :
    (.string name :: .colon :: ts).foldlM step s
      = ts.foldlM step ⟨.object before name :: s.containers, .value⟩ := by
  obtain ⟨containers, expected⟩ := s
  obtain rfl | rfl := h <;> rfl

/-- The value is read from its tokens wherever one is expected. -/
def ReadsBack (v : Json) : Prop :=
  ∀ s : ReaderState, s.AwaitsValue →
    v.tokenList.foldlM step s = some ⟨s.containers, .afterValue v⟩

lemma readsBack_of_token {v : Json} {t : Token} (hv : v.tokenList = [t])
    (ht : ∀ containers, beginValue containers t = ended containers v) : ReadsBack v := by
  intro s h
  have hne : t ≠ .closeArray := by
    rintro rfl
    cases ht []
  rw [hv, List.foldlM_cons, step_of_awaits h hne, ht]
  rfl

/-- The items of an array are read one by one. -/
lemma foldlM_items {item : Json} {items before : List Json} {outer : List Container}
    {s : ReaderState} (h : ∀ v ∈ item :: items, ReadsBack v) (hs : s.AwaitsValue)
    (hcontainers : s.containers = .array before :: outer) :
    (commaSeparated (itemTokens (item :: items)) ++ [Token.closeArray]).foldlM step s
      = some ⟨outer, .afterValue (.array (before.reverse ++ item :: items))⟩ := by
  induction items generalizing item before s with
  | nil =>
      rw [itemTokens, itemTokens, commaSeparated_singleton, List.foldlM_append,
        h item (by simp) s hs, hcontainers]
      simp [step, ended]
  | cons next items ih =>
      have hrest := ih (s := ⟨.array (item :: before) :: outer, .value⟩)
        (fun v hv => h v (List.mem_cons_of_mem _ hv)) (Or.inl rfl) rfl
      rw [itemTokens, List.reverse_cons, List.append_assoc] at hrest
      rw [itemTokens, itemTokens, commaSeparated_cons_cons, List.append_assoc, List.foldlM_append,
        h item (by simp) s hs, hcontainers]
      exact hrest

/-- The members of an object are read one by one. -/
lemma foldlM_members {member : Option String × Json} {members before : List (Option String × Json)}
    {s : ReaderState} (h : ∀ m ∈ member :: members, ReadsBack m.2) (hs : s.AwaitsMember before) :
    (commaSeparated (memberTokens (member :: members)) ++ [Token.closeObject]).foldlM step s
      = some ⟨s.containers, .afterValue (.object (before.reverse ++ member :: members))⟩ := by
  obtain ⟨name, v⟩ := member
  have hvalue := h (name, v) (by simp) ⟨.object before name :: s.containers, .value⟩ (Or.inl rfl)
  induction members generalizing name v before s with
  | nil =>
      rw [memberTokens, memberTokens, commaSeparated_singleton, List.foldlM_append,
        foldlM_name hs, hvalue]
      simp [step, ended]
  | cons next members ih =>
      obtain ⟨nextName, nextValue⟩ := next
      have hrest := ih (s := ⟨s.containers, .member ((name, v) :: before)⟩) (Or.inr rfl) nextName
        nextValue (fun m hm => h m (List.mem_cons_of_mem _ hm))
        (h (nextName, nextValue) (by simp) _ (Or.inl rfl))
      rw [memberTokens, List.reverse_cons, List.append_assoc] at hrest
      rw [memberTokens, memberTokens, commaSeparated_cons_cons, List.append_assoc,
        List.foldlM_append, foldlM_name hs, hvalue]
      exact hrest

/-- **A value is read from its tokens**, by induction on how it is nested. -/
theorem readsBack (v : Json) : ReadsBack v := by
  induction v using Json.induction with
  | null => exact readsBack_of_token (by rw [tokenList]) fun _ => rfl
  | bool b => exact readsBack_of_token (by rw [tokenList]) fun _ => rfl
  | number literal => exact readsBack_of_token (by rw [tokenList]) fun _ => rfl
  | string text => exact readsBack_of_token (by rw [tokenList]) fun _ => rfl
  | array items ih =>
      intro s h
      rw [tokenList, List.foldlM_cons, step_of_awaits h (by simp)]
      cases items with
      | nil => rfl
      | cons item items =>
          exact foldlM_items (s := ⟨.array [] :: s.containers, .firstItem⟩) ih (Or.inr rfl) rfl
  | object members ih =>
      intro s h
      rw [tokenList, List.foldlM_cons, step_of_awaits h (by simp)]
      cases members with
      | nil => rfl
      | cons member members =>
          exact foldlM_members (s := ⟨s.containers, .firstMember []⟩) ih (Or.inl rfl)

/-! ## From tokens to values -/

/-- Items with a comma behind each, from the last one on. -/
def itemsWritten (items : List Json) : List Token :=
  items.reverse.flatMap fun v => v.tokenList ++ [.comma]

/-- Members with a comma behind each, from the last one on. -/
def membersWritten (members : List (Option String × Json)) : List Token :=
  members.reverse.flatMap fun m => .string m.1 :: .colon :: (m.2.tokenList ++ [.comma])

end ReaderState

open ReaderState (itemsWritten membersWritten)

/-- What has been read of a container that is still open. -/
def Container.written : Container → List Token
  | .array items => .openArray :: itemsWritten items
  | .object members name => .openObject :: (membersWritten members ++ [.string name, .colon])

/-- What has been read since the innermost container. -/
def Expected.written : Expected → List Token
  | .value | .firstItem => []
  | .firstMember members | .member members => .openObject :: membersWritten members
  | .colon members name => .openObject :: (membersWritten members ++ [.string name])
  | .afterValue v => v.tokenList

lemma itemTokens_eq_map (items : List Json) : itemTokens items = items.map tokenList := by
  induction items with
  | nil => rw [itemTokens, List.map_nil]
  | cons item items ih => rw [itemTokens, ih, List.map_cons]

lemma memberTokens_eq_map (members : List (Option String × Json)) :
    memberTokens members = members.map fun m => .string m.1 :: .colon :: m.2.tokenList := by
  induction members with
  | nil => rw [memberTokens, List.map_nil]
  | cons member members ih => rw [memberTokens, ih, List.map_cons]

lemma commaSeparated_concat (runs : List (List Token)) (last : List Token) :
    commaSeparated (runs ++ [last]) = runs.flatMap (· ++ [.comma]) ++ last := by
  induction runs with
  | nil => exact commaSeparated_singleton last
  | cons run runs ih =>
      rw [List.flatMap_cons, List.append_assoc, ← ih, List.append_assoc]
      cases runs with
      | nil => exact commaSeparated_cons_cons run last []
      | cons next runs => exact commaSeparated_cons_cons run next (runs ++ [last])

/-- An array that is closed behind an item. -/
lemma tokenList_array_reverse (v : Json) (items : List Json) :
    (array (v :: items).reverse).tokenList
      = .openArray :: (itemsWritten items ++ v.tokenList ++ [.closeArray]) := by
  rw [tokenList, itemTokens_eq_map, List.reverse_cons, List.map_append, List.map_singleton,
    commaSeparated_concat, List.flatMap_map]
  rfl

/-- An object that is closed behind a member. -/
lemma tokenList_object_reverse (m : Option String × Json) (members : List (Option String × Json)) :
    (object (m :: members).reverse).tokenList
      = .openObject :: (membersWritten members ++ .string m.1 :: .colon :: m.2.tokenList
          ++ [.closeObject]) := by
  rw [tokenList, memberTokens_eq_map, List.reverse_cons, List.map_append, List.map_singleton,
    commaSeparated_concat, List.flatMap_map]
  rfl

namespace ReaderState

/-- **What has been read** up to a state of the reader. -/
def written (s : ReaderState) : List Token :=
  s.containers.reverse.flatMap Container.written ++ s.expected.written

/-- Where a first item or a first member may come, there is none yet. -/
def Fresh (s : ReaderState) : Prop :=
  match s.expected with
  | .firstItem => ∃ outer, s.containers = .array [] :: outer
  | .firstMember members => members = []
  | _ => True

/-- The start of a value adds itself to what has been read. -/
lemma written_beginValue {containers : List Container} {t : Token} {s : ReaderState}
    (h : beginValue containers t = some s) :
    s.Fresh ∧ s.written = containers.reverse.flatMap Container.written ++ [t] := by
  cases t <;> cases h <;>
    simp [Fresh, written, Container.written, Expected.written, tokenList, itemsWritten,
      membersWritten]

/-- **A token adds itself** to what has been read, one case for each thing that may be expected. -/
lemma written_step {s s' : ReaderState} {t : Token} (hs : s.Fresh) (h : step s t = some s') :
    s'.Fresh ∧ s'.written = s.written ++ [t] := by
  have hbegin {containers : List Container} (h : beginValue containers t = some s') :
      s'.Fresh ∧ s'.written = written ⟨containers, .value⟩ ++ [t] := by
    obtain ⟨hfresh, hwritten⟩ := written_beginValue h
    exact ⟨hfresh, by rw [hwritten, written, Expected.written, List.append_nil]⟩
  obtain ⟨containers, expected⟩ := s
  cases expected with
  | value => exact hbegin h
  | firstItem =>
      obtain ⟨outer, rfl⟩ := hs
      simp only [step] at h
      split at h
      · rename_i hcontainers
        cases hcontainers
        cases h
        have hclosed : (array []).tokenList = [.openArray, .closeArray] := by
          rw [tokenList, itemTokens]
          rfl
        simp [Fresh, written, Expected.written, Container.written, itemsWritten, hclosed]
      · exact hbegin h
  | firstMember members =>
      obtain rfl : members = [] := hs
      simp only [step] at h
      split at h
      · cases h
        have hclosed : (object []).tokenList = [.openObject, .closeObject] := by
          rw [tokenList, memberTokens]
          rfl
        simp [Fresh, written, Expected.written, membersWritten, hclosed]
      · cases h
        simp [Fresh, written, Expected.written]
      · cases h
  | member members =>
      simp only [step] at h
      split at h
      · cases h
        simp [Fresh, written, Expected.written]
      · cases h
  | colon members name =>
      simp only [step] at h
      split at h
      · cases h
        simp [Fresh, written, Expected.written, Container.written]
      · cases h
  | afterValue v =>
      simp only [step] at h
      split at h
      · cases h
        simp [Fresh, written, Expected.written, Container.written, itemsWritten]
      · cases h
        simp [Fresh, written, Expected.written, Container.written, membersWritten]
      · cases h
        simp only [Fresh, written, Expected.written, tokenList_array_reverse]
        simp [Container.written]
      · cases h
        simp only [Fresh, written, Expected.written, tokenList_object_reverse]
        simp [Container.written]
      · cases h

/-- Tokens one after the other, by induction on their list. -/
lemma written_foldlM {ts : List Token} {s s' : ReaderState} (hs : s.Fresh)
    (h : ts.foldlM step s = some s') : s'.Fresh ∧ s'.written = s.written ++ ts := by
  induction ts generalizing s with
  | nil =>
      cases h
      exact ⟨hs, (List.append_nil _).symm⟩
  | cons t ts ih =>
      rw [List.foldlM_cons] at h
      obtain ⟨next, hnext, hrest⟩ := Option.bind_eq_some_iff.mp h
      obtain ⟨hfresh, hwritten⟩ := written_step hs hnext
      obtain ⟨hfresh', hwritten'⟩ := ih hfresh hrest
      exact ⟨hfresh', by rw [hwritten', hwritten, List.append_assoc]; rfl⟩

/-! ## Numbers -/

/-- A number ends a value, and no value begins behind one. -/
lemma apart_of_step {s s' s'' : ReaderState} {t u : Token} (h : step s t = some s')
    (h' : step s' u = some s'') : Apart t u := by
  rintro ⟨ht, hu⟩
  obtain ⟨literal, rfl⟩ := Token.eq_number_of_isNumber ht
  obtain ⟨literal', rfl⟩ := Token.eq_number_of_isNumber hu
  have hended : s'.expected = .afterValue (.number literal) := by
    obtain ⟨containers, expected⟩ := s
    cases expected <;> cases h <;> rfl
  obtain ⟨containers, expected⟩ := s'
  obtain rfl : expected = .afterValue (.number literal) := hended
  cases h'

/-- Tokens that can be read hold no two numbers one after the other. -/
lemma isChain_apart_of_foldlM {ts : List Token} {s s' : ReaderState}
    (h : ts.foldlM step s = some s') : ts.IsChain Apart := by
  induction ts generalizing s with
  | nil => exact .nil
  | cons t ts ih =>
      rw [List.foldlM_cons] at h
      obtain ⟨next, hnext, hrest⟩ := Option.bind_eq_some_iff.mp h
      refine List.isChain_cons.mpr ⟨fun u hu => ?_, ih hrest⟩
      obtain ⟨more, rfl⟩ := List.head?_eq_some_iff.mp hu
      rw [List.foldlM_cons] at hrest
      obtain ⟨_, hsecond, -⟩ := Option.bind_eq_some_iff.mp hrest
      exact apart_of_step hnext hsecond

end ReaderState

/-! ## Documents -/

/-- **A text is read as a value exactly if it is a written form of the value.** -/
theorem read?_eq_some_iff {text : String} {v : Json} :
    read? text = some v ↔ v.WrittenAs text := by
  have hback := ReaderState.readsBack v .initial (Or.inl rfl)
  constructor
  · intro h
    obtain ⟨ts, htokens, hvalue⟩ := Option.bind_eq_some_iff.mp h
    obtain ⟨s, hread, hs⟩ := Option.bind_eq_some_iff.mp hvalue
    obtain ⟨-, hwritten⟩ := ReaderState.written_foldlM (s := .initial) trivial hread
    unfold ReaderState.value? at hs
    split at hs
    · cases hs
      have hts : v.tokenList = ts := hwritten
      rw [WrittenAs, hts]
      exact .of_tokens htokens
    · cases hs
  · intro h
    have htokens := h.tokens_eq (ReaderState.isChain_apart_of_foldlM hback)
    rw [read?, htokens]
    exact congrArg (Option.bind · ReaderState.value?) hback

/-! ### Members that are numbers -/

lemma mem_commaSeparated {t : Token} {run : List Token} {runs : List (List Token)}
    (hrun : run ∈ runs) (ht : t ∈ run) : t ∈ commaSeparated runs := by
  induction runs with
  | nil => cases hrun
  | cons first runs ih =>
      cases runs with
      | nil =>
          rw [List.mem_singleton.mp hrun] at ht
          rwa [commaSeparated_singleton]
      | cons next runs =>
          rw [commaSeparated_cons_cons, List.mem_append, List.mem_cons]
          obtain rfl | hrest := List.mem_cons.mp hrun
          · exact Or.inl ht
          · exact Or.inr (Or.inr (ih hrest))

/-- A number that is a member of an object is written in the form of a number. -/
lemma WrittenAs.number_form {members : List (Option String × Json)} {text literal : String}
    {name : Option String} (h : (object members).WrittenAs text)
    (hmember : (name, number literal) ∈ members) : SpellsNumber literal.toList := by
  have hrun : [.string name, .colon, .number literal] ∈ memberTokens members := by
    rw [memberTokens_eq_map]
    exact List.mem_map.mpr ⟨_, hmember, by rw [tokenList]⟩
  have hmem : Token.number literal ∈ (object members).tokenList := by
    rw [tokenList]
    exact List.mem_cons_of_mem _ (List.mem_append_left _ (mem_commaSeparated hrun (by simp)))
  obtain ⟨_, hspelled⟩ := h.exists_of_mem hmem
  exact hspelled.number_form

end TrafficDigest.Json
