import Mathlib.Data.List.Nodup
import Mathlib.Data.List.Perm.Basic
import Mathlib.Logic.Relation
import Mathlib.Tactic.Lemma
import Mathlib.Tactic.Common
import TrafficDigest.Json.Decode

/-!
# What the decoding of a record depends on

A value that holds records can be rearranged without a change of what it says: the members of an
object may come in another order, and members that nobody asks for may be there or not (`Edit`).
Which parts of a value are records, and what their members are, is its `Shape`.

The ingredients:

* **Objects** — for each member that a record asks for, an edit keeps how many values there are
  and, up to an edit, the value that stands alone (`ValuesAlike`).
* **Arrays** — a record written by places keeps all of its items but one (`ItemsAlike`).
* **A law for each piece of a decoder** — `Follows`, with one lemma for each way to build a
  `RecordDecoder`, so that a decoder is shown to follow its shape by the steps it is built by.

`RecordDecoder.Follows.decode` closes the circle: a record decoder that follows its members gives
the same for a value and for the value edited.
-/

namespace TrafficDigest.Json

/-! ## Shapes and edits -/

/-- Which parts of a value are records. -/
inductive Shape where
  /-- No record and no list of records. -/
  | plain
  | list (item : Shape)
  /-- The members by their names, in the order of their places. -/
  | record (fields : List (String × Shape))

/-- **One change to a value of a shape** that leaves alone what the value says.  A new member must
have a name that is `Allowed` and is not the name of a member of the record. -/
inductive Edit (Allowed : Option String → Prop) : Shape → Json → Json → Prop
  | permuted {fields : List (String × Shape)} {members members' : List (Option String × Json)}
      (h : members.Perm members') :
      Edit Allowed (.record fields) (.object members) (.object members')
  | inserted {fields : List (String × Shape)} (before after : List (Option String × Json))
      {name : Option String} (value : Json) (allowed : Allowed name)
      (unknown : ∀ field ∈ fields, name ≠ some field.1) :
      Edit Allowed (.record fields) (.object (before ++ after))
        (.object (before ++ (name, value) :: after))
  | member {fields : List (String × Shape)} (before after : List (Option String × Json))
      (field : String × Shape) {v v' : Json} (known : field ∈ fields)
      (h : Edit Allowed field.2 v v') :
      Edit Allowed (.record fields) (.object (before ++ (some field.1, v) :: after))
        (.object (before ++ (some field.1, v') :: after))
  | place {fields : List (String × Shape)} (before after : List Json) (field : String × Shape)
      {v v' : Json} (known : fields[before.length]? = some field)
      (h : Edit Allowed field.2 v v') :
      Edit Allowed (.record fields) (.array (before ++ v :: after)) (.array (before ++ v' :: after))
  | item {shape : Shape} (before after : List Json) {v v' : Json} (h : Edit Allowed shape v v') :
      Edit Allowed (.list shape) (.array (before ++ v :: after)) (.array (before ++ v' :: after))

/-- A name that is a text; one with half of a surrogate pair is not. -/
def HasText (name : Option String) : Prop := name.isSome = true

/-- **An edit is not seen:** a value and the value edited, with names that are texts, decode to the
same. -/
def Respects {α : Type} (shape : Shape) (d : Decoder α) : Prop :=
  ∀ ⦃v v' : Json⦄, Edit HasText shape v v' → d v = d v'

variable {α β : Type}

namespace Respects

variable {shape : Shape} {d : Decoder α}

/-- A value is the same, or an edit of it. -/
lemma of_reflGen (h : Respects shape d) {v v' : Json}
    (hv : Relation.ReflGen (Edit HasText shape) v v') : d v = d v' := by
  cases hv with
  | refl => rfl
  | single hedit => exact h hedit

/-- **Any number of edits is not seen.** -/
lemma of_reflTransGen (h : Respects shape d) {v v' : Json}
    (hv : Relation.ReflTransGen (Edit HasText shape) v v') : d v = d v' := by
  induction hv with
  | refl => rfl
  | tail _ hedit ih => exact ih.trans (h hedit)

/-- A value that holds no record has no edits. -/
lemma plain (d : Decoder α) : Respects .plain d := fun _ _ hedit => nomatch hedit

lemma list (h : Respects shape d) : Respects (.list shape) (Decoder.list d) := by
  intro v v' hedit
  cases hedit with
  | item before after hitem => simp only [Decoder.list, List.mapM_append, List.mapM_cons, h hitem]

/-- `null` is not edited, and nothing becomes `null`. -/
lemma nullable (h : Respects shape d) : Respects shape d.nullable := by
  intro v v' hedit
  have hsame : (d v).map some = (d v').map some := congrArg _ (h hedit)
  cases hedit <;> exact hsame

end Respects

namespace RecordDecoder

/-! ## Members of an object -/

/-- The values under a name, in their order. -/
def valuesOf (name : String) (members : Members) : List Json :=
  (members.filter (·.1 == name)).map Prod.snd

@[simp] lemma valuesOf_append (name : String) (before after : Members) :
    valuesOf name (before ++ after) = valuesOf name before ++ valuesOf name after := by
  simp only [valuesOf, List.filter_append, List.map_append]

@[simp] lemma valuesOf_cons_self (name : String) (v : Json) (members : Members) :
    valuesOf name ((name, v) :: members) = v :: valuesOf name members := by
  simp [valuesOf]

lemma valuesOf_cons_of_ne {name other : String} (h : other ≠ name) (v : Json) (members : Members) :
    valuesOf name ((other, v) :: members) = valuesOf name members := by
  simp [valuesOf, h]

lemma lookup_eq_head? (name : String) (members : Members) :
    members.lookup name = (valuesOf name members).head? := by
  induction members with
  | nil => rfl
  | cons m members ih =>
      obtain ⟨other, v⟩ := m
      by_cases h : other = name
      · subst h
        simp
      · have hbeq : (name == other) = false := beq_false_of_ne (Ne.symm h)
        rw [valuesOf_cons_of_ne h, ← ih, List.lookup_cons, hbeq]

lemma unrepeated_iff {names : List String} {members : Members} :
    unrepeated names members = true ↔ ∀ name ∈ names, (valuesOf name members).length ≤ 1 := by
  simp only [unrepeated, List.all_eq_true, decide_eq_true_eq, valuesOf, List.length_map]

/-- The members whose names have a text. -/
def named (members : List (Option String × Json)) : Members :=
  members.filterMap fun (name, v) => name.map (·, v)

@[simp] lemma named_append (before after : List (Option String × Json)) :
    named (before ++ after) = named before ++ named after := List.filterMap_append

@[simp] lemma named_cons_some (name : String) (v : Json) (members : List (Option String × Json)) :
    named ((some name, v) :: members) = (name, v) :: named members := rfl

lemma namedMembers?_eq (members : List (Option String × Json)) :
    namedMembers? members
      = if members.all (·.1.isSome) then some (named members) else none := by
  induction members with
  | nil => rfl
  | cons m members ih =>
      rw [namedMembers?] at ih ⊢
      rw [List.mapM_cons, ih]
      obtain ⟨_ | name, v⟩ := m
      · rfl
      · by_cases h : members.all (·.1.isSome) <;> simp [h]

/-- **A record is decoded from an object by its members**, if all names have a text and none that is
asked for comes twice. -/
lemma decode_object (r : RecordDecoder α) (members : List (Option String × Json)) :
    r.decode (.object members)
      = if members.all (·.1.isSome) then
          if unrepeated r.names (named members) then r.ofMembers (named members) else none
        else none := by
  show (namedMembers? members).bind _ = _
  rw [namedMembers?_eq]
  cases members.all (·.1.isSome) <;> rfl

/-- An object made of named members. -/
lemma decode_obj (r : RecordDecoder α) {members : Members}
    (h : unrepeated r.names members = true) :
    r.decode (Json.obj members) = r.ofMembers members := by
  have hnamed : named (members.map fun m => (some m.1, m.2)) = members := by
    simp [named, List.filterMap_map]
  show r.decode (.object (members.map fun m => (some m.1, m.2))) = _
  rw [decode_object, hnamed, if_pos h, if_pos (by simp)]

lemma decode_object_eq_some {r : RecordDecoder α} {members : List (Option String × Json)} {a : α} :
    r.decode (.object members) = some a ↔
      members.all (·.1.isSome) = true ∧ unrepeated r.names (named members) = true ∧
        r.ofMembers (named members) = some a := by
  rw [decode_object, Option.ite_none_right_eq_some, Option.ite_none_right_eq_some]

lemma mem_valuesOf_named {name : String} {members : List (Option String × Json)} {v : Json} :
    v ∈ valuesOf name (named members) ↔ (some name, v) ∈ members := by
  simp [valuesOf, named]

/-- **What is looked up** in an object where no name comes twice: the value that stands there. -/
lemma lookup_named_eq_some_iff {names : List String} {name : String}
    {members : List (Option String × Json)} (hname : name ∈ names)
    (h : unrepeated names (named members) = true) {v : Json} :
    (named members).lookup name = some v ↔ (some name, v) ∈ members := by
  have hone := unrepeated_iff.mp h name hname
  rw [lookup_eq_head?, ← mem_valuesOf_named]
  match valuesOf name (named members), hone with
  | [], _ => simp
  | [w], _ => simp [eq_comm]

/-! ## What a record decoder asks for -/

@[simp] lemma ofMembers_map (f : α → β) (r : RecordDecoder α) (members : Members) :
    (f <$> r).ofMembers members = (r.ofMembers members).map f :=
  Option.map_eq_bind.symm

@[simp] lemma ofMembers_seq (f : RecordDecoder (α → β)) (r : RecordDecoder α)
    (members : Members) :
    (f <*> r).ofMembers members = (f.ofMembers members).bind (r.ofMembers members).map := by
  show (f.ofMembers members).bind _ = _
  congr
  funext g
  exact Option.map_eq_bind.symm

@[simp] lemma ofMembers_required (name : String) (d : Decoder α) (members : Members) :
    (required name d).ofMembers members = (members.lookup name).bind d := by
  show member name d none members = _
  rw [member]
  cases members.lookup name <;> rfl

@[simp] lemma ofMembers_defaulted (name : String) (d : Decoder α) (default : α)
    (members : Members) :
    (defaulted name d default).ofMembers members = (members.lookup name).elim (some default) d := by
  show member name d (some default) members = _
  rw [member]
  cases members.lookup name <;> rfl

/-! ## Edits of an object -/

/-- What is under a name in two lists of members: the same values in some order, or the same values
but for an edit in one of them. -/
inductive ValuesAlike (shape : Shape) : List Json → List Json → Prop
  | perm {values values' : List Json} (h : values.Perm values') : ValuesAlike shape values values'
  | edit (before after : List Json) {v v' : Json} (h : Edit HasText shape v v') :
      ValuesAlike shape (before ++ v :: after) (before ++ v' :: after)

namespace ValuesAlike

variable {shape : Shape} {values values' : List Json}

lemma length_eq (h : ValuesAlike shape values values') : values.length = values'.length := by
  cases h with
  | perm h => exact h.length_eq
  | edit before after _ => simp only [List.length_append, List.length_cons]

/-- **A value that stands alone** is kept up to an edit. -/
lemma head?_rel (h : ValuesAlike shape values values') (hone : values.length ≤ 1) :
    Option.Rel (Relation.ReflGen (Edit HasText shape)) values.head? values'.head? := by
  cases h with
  | perm h =>
      match values, hone with
      | [], _ =>
        rw [h.symm.eq_nil]
        exact .none
      | [v], _ =>
        rw [List.perm_singleton.mp h.symm]
        exact .some .refl
  | edit before after h =>
      obtain rfl : before = [] := by
        simp only [List.length_append, List.length_cons] at hone
        exact List.length_eq_zero_iff.mp (by omega)
      exact .some (.single h)

end ValuesAlike

/-- **What an edit does to an object**, as the decoder of a record with distinct names sees it. -/
lemma exists_of_edit_object {fields : List (String × Shape)}
    (hdistinct : (fields.map Prod.fst).Nodup) {members : List (Option String × Json)} {v' : Json}
    (h : Edit HasText (.record fields) (.object members) v') :
    ∃ members', v' = .object members' ∧
      members.all (·.1.isSome) = members'.all (·.1.isSome) ∧
      ∀ field ∈ fields, ValuesAlike field.2 (valuesOf field.1 (named members))
        (valuesOf field.1 (named members')) := by
  cases h with
  | @permuted _ _ members' hperm =>
      refine ⟨members', rfl, hperm.all_eq, fun field _ => .perm ?_⟩
      exact ((hperm.filterMap _).filter _).map _
  | @inserted _ before after name value allowed unknown =>
      obtain ⟨text, rfl⟩ := Option.isSome_iff_exists.mp allowed
      refine ⟨_, rfl, by simp, fun field hfield => .perm ?_⟩
      have hother : text ≠ field.1 := fun heq => unknown field hfield (congrArg some heq)
      simp [valuesOf_cons_of_ne hother]
  | @member _ before after known v v' hknown hedit =>
      refine ⟨_, rfl, by simp, fun field hfield => ?_⟩
      by_cases hname : known.1 = field.1
      · obtain rfl : known = field := List.inj_on_of_nodup_map hdistinct hknown hfield hname
        simpa using .edit _ _ hedit
      · refine .perm ?_
        simp [valuesOf_cons_of_ne hname]

/-! ## Items of an array -/

/-- The items of a record written by places: the same, or the same but for an edit in one that is a
member. -/
inductive ItemsAlike : List (String × Shape) → List Json → List Json → Prop
  | same (fields : List (String × Shape)) (items : List Json) : ItemsAlike fields items items
  | here {field : String × Shape} {fields : List (String × Shape)} {v v' : Json}
      (h : Edit HasText field.2 v v') (items : List Json) :
      ItemsAlike (field :: fields) (v :: items) (v' :: items)
  | later {fields : List (String × Shape)} {items items' : List Json} (field : String × Shape)
      (v : Json) (h : ItemsAlike fields items items') :
      ItemsAlike (field :: fields) (v :: items) (v :: items')

lemma ItemsAlike.of_place {field : String × Shape} {v v' : Json} (h : Edit HasText field.2 v v')
    (after : List Json) {fields : List (String × Shape)} {before : List Json}
    (hplace : fields[before.length]? = some field) :
    ItemsAlike fields (before ++ v :: after) (before ++ v' :: after) := by
  induction before generalizing fields with
  | nil =>
      obtain ⟨rest, rfl⟩ := List.head?_eq_some_iff.mp (List.head?_eq_getElem?.trans hplace)
      exact .here h after
  | cons item before ih =>
      cases fields with
      | nil => cases hplace
      | cons first fields => exact .later first item (ih (by simpa using hplace))

/-! ## Decoders that follow their members -/

lemma rel_bind {R : α → α → Prop} {S : β → β → Prop} {f f' : α → Option β} {a a' : Option α}
    (h : Option.Rel R a a') (hf : ∀ x x', R x x' → Option.Rel S (f x) (f' x')) :
    Option.Rel S (a.bind f) (a'.bind f') := by
  cases h with
  | none => exact .none
  | some hR => exact hf _ _ hR

lemma rel_map {γ : Type} {S : β → β → Prop} {f f' : γ → β} (a : Option γ)
    (hf : ∀ x, S (f x) (f' x)) : Option.Rel S (a.map f) (a.map f') := by
  cases a with
  | none => exact .none
  | some x => exact .some (hf x)

/-- The same value was taken from the front of the items, and the items that are left are alike. -/
def RestAlike (more : List (String × Shape)) (a a' : α × List Json) : Prop :=
  a.1 = a'.1 ∧ ItemsAlike more a.2 a'.2

/-- **A record decoder follows its members:** it looks at nothing else, and at each of them only up
to an edit. -/
structure Follows (r : RecordDecoder α) (fields : List (String × Shape)) : Prop where
  names : r.names = fields.map Prod.fst
  members : ∀ ⦃members members' : Members⦄,
    (∀ field ∈ fields, Option.Rel (Relation.ReflGen (Edit HasText field.2))
      (members.lookup field.1) (members'.lookup field.1)) →
    r.ofMembers members = r.ofMembers members'
  items : ∀ ⦃more : List (String × Shape)⦄ ⦃items items' : List Json⦄,
    ItemsAlike (fields ++ more) items items' →
    Option.Rel (RestAlike more) (r.ofItems items) (r.ofItems items')

namespace Follows

variable {fields : List (String × Shape)}

lemma pure (a : α) : Follows (Pure.pure a) [] where
  names := rfl
  members _ _ _ := rfl
  items _ _ _ h := .some ⟨rfl, h⟩

/-- **Members after members.** -/
lemma seq {f : RecordDecoder (α → β)} {x : RecordDecoder α} {fields' : List (String × Shape)}
    (hf : Follows f fields) (hx : Follows x fields') : Follows (f <*> x) (fields ++ fields') where
  names := by
    rw [List.map_append, ← hf.names, ← hx.names]
    rfl
  members members members' h := by
    have hfirst := hf.members fun field hfield => h field (List.mem_append_left _ hfield)
    have hsecond := hx.members fun field hfield => h field (List.mem_append_right _ hfield)
    rw [ofMembers_seq, ofMembers_seq, hfirst, hsecond]
  items more items items' h := by
    rw [List.append_assoc] at h
    refine rel_bind (hf.items h) fun (g, _) (_, _) hrest => ?_
    obtain ⟨rfl, hitems⟩ := hrest
    exact rel_bind (hx.items hitems) fun _ _ hlast => .some ⟨congrArg g hlast.1, hlast.2⟩

lemma map (f : α → β) {x : RecordDecoder α} (h : Follows x fields) : Follows (f <$> x) fields :=
  (pure f).seq h

/-- **One member**, whatever stands for it when it is missing. -/
lemma single (name : String) {shape : Shape} {d : Decoder α} (hd : Respects shape d)
    (missing missingItem : Option α) :
    Follows ⟨[name], member name d missing, nextItem d missingItem⟩ [(name, shape)] where
  names := rfl
  members members members' h := by
    have hvalue := h (name, shape) (List.mem_singleton_self _)
    simp only [member]
    generalize members.lookup name = value, members'.lookup name = value' at hvalue ⊢
    cases hvalue with
    | none => rfl
    | some hedit => exact hd.of_reflGen hedit
  items more items items' h := by
    cases h with
    | same _ items =>
        cases items with
        | nil => exact rel_map missingItem fun _ => ⟨rfl, .same more []⟩
        | cons v items => exact rel_map (d v) fun _ => ⟨rfl, .same more items⟩
    | @here _ _ v v' hedit items =>
        simp only [nextItem, hd hedit]
        exact rel_map (d v') fun _ => ⟨rfl, .same more items⟩
    | later _ v h => exact rel_map (d v) fun _ => ⟨rfl, h⟩

lemma required (name : String) {shape : Shape} {d : Decoder α} (hd : Respects shape d) :
    Follows (RecordDecoder.required name d) [(name, shape)] :=
  single name hd none none

lemma defaulted (name : String) {shape : Shape} {d : Decoder α} (hd : Respects shape d)
    (default : α) : Follows (RecordDecoder.defaulted name d default) [(name, shape)] :=
  single name hd (some default) (some default)

lemma optional (name : String) {shape : Shape} {d : Decoder α} (hd : Respects shape d) :
    Follows (RecordDecoder.optional name d) [(name, shape)] :=
  defaulted name hd.nullable none

variable {r : RecordDecoder α}

/-- An object whose members are alike decodes to the same: a name that comes twice does so on both
sides, and a value that is asked for is the only one under its name. -/
lemma decode_members (h : Follows r fields) {members members' : Members}
    (hvalues : ∀ field ∈ fields,
      ValuesAlike field.2 (valuesOf field.1 members) (valuesOf field.1 members')) :
    (if unrepeated r.names members then r.ofMembers members else none)
      = if unrepeated r.names members' then r.ofMembers members' else none := by
  have hunrepeated : unrepeated r.names members = unrepeated r.names members' := by
    rw [Bool.eq_iff_iff, unrepeated_iff, unrepeated_iff, h.names, List.forall_mem_map,
      List.forall_mem_map]
    exact forall₂_congr fun field hfield => by rw [(hvalues field hfield).length_eq]
  rw [← hunrepeated]
  refine ite_congr rfl (fun hone => h.members fun field hfield => ?_) fun _ => rfl
  rw [lookup_eq_head?, lookup_eq_head?]
  refine (hvalues field hfield).head?_rel (unrepeated_iff.mp hone field.1 ?_)
  rw [h.names]
  exact List.mem_map_of_mem hfield

/-- An array whose items are alike decodes to the same. -/
lemma decode_items (h : Follows r fields) {items items' : List Json}
    (hitems : ItemsAlike fields items items') :
    r.decode (.array items) = r.decode (.array items') := by
  have hrest : Option.Rel (RestAlike []) (r.ofItems items) (r.ofItems items') :=
    h.items (by rwa [List.append_nil])
  simp only [RecordDecoder.decode]
  generalize r.ofItems items = taken, r.ofItems items' = taken' at hrest ⊢
  cases hrest with
  | none => rfl
  | @some b b' hrest =>
      obtain ⟨a, left⟩ := b
      obtain ⟨a', left'⟩ := b'
      obtain ⟨rfl, hleft⟩ := hrest
      cases hleft
      rfl

/-- **A record with distinct names that follows its members does not see edits**, in an object or
in an array. -/
theorem decode (h : Follows r fields) (hdistinct : (fields.map Prod.fst).Nodup) :
    Respects (.record fields) r.decode := by
  intro v v' hedit
  cases v with
  | object members =>
      obtain ⟨members', rfl, hnamed, hvalues⟩ := exists_of_edit_object hdistinct hedit
      rw [decode_object, decode_object, hnamed, h.decode_members hvalues]
  | array items =>
      cases hedit with
      | place before after _ hplace hitem => exact h.decode_items (.of_place hitem after hplace)
  | _ => nomatch hedit

end Follows

end RecordDecoder

end TrafficDigest.Json
