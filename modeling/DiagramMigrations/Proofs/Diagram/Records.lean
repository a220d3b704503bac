import DiagramMigrations.Proofs.Diagram.Slots

/-!
The records of a document and their fields. A record is read from its members, which are those of an
object or the elements of an array under the names of the fields.
-/

set_option autoImplicit false
set_option relaxedAutoImplicit false

namespace DiagramMigrations.Diagram

/-! ### Members of a record -/

/-- The members of a record that has fields of some names: those of an object, or the elements of an
array that is not too long. -/
def membersAs (names : List String) : Json → Option (List (String × Json))
  | .object members => some members
  | .array items => if items.length ≤ names.length then some (names.zip items) else none
  | _ => none

theorem required_eq_ok {α : Type} {absent : String → Complaint} {field : String}
    {slot : Option α} {x : α} : required absent field slot = .ok x ↔ slot = some x := by
  cases slot <;> simp [required]

/-- A field is filled if it is still empty and its value can be read. -/
theorem fill_eq_ok {α β : Type} {field : String} {slot : Option α} {value : Except Complaint α}
    {f : Option α → β} {y : β} :
    (once field slot value >>= fun filled ↦ pure (f filled)) = .ok y ↔
      slot = none ∧ ∃ x, value = .ok x ∧ f (some x) = y := by
  cases slot with
  | some _ => simp [once, bind, Except.bind]
  | none => cases value <;> simp [once, Except.map, bind, Except.bind, pure, Except.pure]

section Shape

variable {Draft Result : Type} {s : Shape Draft Result} {v : Json} {r : Result}

/-- A record is read from its members: they fill a draft, and the draft is finished. -/
theorem Shape.read_eq_ok
    (hany : ∀ {absent absent' d r}, s.finish absent d = .ok r → s.finish absent' d = .ok r)
    (absent : String → Complaint) :
    s.read v = .ok r ↔ ∃ ms d, membersAs s.fields v = some ms ∧
      ms.foldlM (fun d m ↦ s.take d m.1 m.2) s.empty = .ok d ∧ s.finish absent d = .ok r := by
  cases v with
  | null | boolean | number | text => simp [read, membersAs]
  | object members =>
    rw [read, membersAs]
    constructor
    · intro h
      obtain ⟨d, hd, hr⟩ := bind_eq_ok.mp h
      exact ⟨members, d, rfl, hd, hany hr⟩
    · rintro ⟨ms, d, ⟨⟩, hd, hr⟩
      exact bind_eq_ok.mpr ⟨d, hd, hany hr⟩
  | array items =>
    rw [read, membersAs]
    constructor
    · intro h
      obtain ⟨d, hd, h⟩ := bind_eq_ok.mp h
      obtain ⟨found, hfound, h⟩ := bind_eq_ok.mp h
      obtain ⟨hlength, h⟩ := unless_throw_eq_ok.mp h
      obtain rfl : found = r := Except.ok.inj h
      exact ⟨_, d, if_pos (Nat.le_of_not_lt hlength), hd, hany hfound⟩
    · rintro ⟨ms, d, hms, hd, hr⟩
      split_ifs at hms with hlength
      obtain rfl := Option.some.inj hms
      exact bind_eq_ok.mpr ⟨d, hd, bind_eq_ok.mpr ⟨r, hany hr,
        unless_throw_eq_ok.mpr ⟨Nat.not_lt_of_le hlength, rfl⟩⟩⟩

/-- A field with some keys. -/
def fieldSlot {α : Type} (keys : List String) (read : Json → Except Complaint α)
    (get : Draft → Option α) : Slot Draft String Json Complaint where
  Value := α
  takes key := key ∈ keys
  read := read
  get := get

/-- Whether a record has the given fields, which decide what it comes to up to a relation. -/
structure Shape.Laws (s : Shape Draft Result) (slots : List (Slot Draft String Json Complaint))
    (Same : Result → Result → Prop) : Prop where
  fills : Fills (fun d m ↦ s.take d m.1 m.2) (fun _ ↦ True) slots
  empty : ∀ slot ∈ slots, slot.get s.empty = none
  finish_any : ∀ {absent absent' d r}, s.finish absent d = .ok r → s.finish absent' d = .ok r
  finish_same : ∀ {absent d d' r}, (∀ slot ∈ slots, slot.get d' = slot.get d) →
    s.finish absent d = .ok r → ∃ r', s.finish absent d' = .ok r' ∧ Same r' r

namespace Shape.Laws

variable {slots : List (Slot Draft String Json Complaint)} {Same : Result → Result → Prop}
  {w : Json} {ms ns : List (String × Json)}

/-- A record that is read comes from a draft whose fields hold what is for them. -/
theorem exists_draft (laws : s.Laws slots Same) (hread : s.read v = .ok r)
    (hms : membersAs s.fields v = some ms) :
    ∃ d, (∀ slot ∈ slots, slot.Holds ms (slot.get d)) ∧ ∀ absent, s.finish absent d = .ok r := by
  obtain ⟨ms', d, hms', hd, hr⟩ := (read_eq_ok laws.finish_any .missingField).mp hread
  obtain rfl := Option.some.inj (hms'.symm.trans hms)
  exact ⟨d, (laws.fills.holds laws.empty hd).2, fun absent ↦ laws.finish_any hr⟩

/-- A draft can be filled from members if each field has something to hold, and what it is finished
to is then read. -/
theorem exists_read (laws : s.Laws slots Same) (hms : membersAs s.fields v = some ms)
    (hholds : ∀ slot ∈ slots, ∃ x, slot.Holds ms x) :
    ∃ d, (∀ slot ∈ slots, slot.Holds ms (slot.get d)) ∧
      ∀ absent r, s.finish absent d = .ok r → s.read v = .ok r := by
  obtain ⟨d, hd⟩ := laws.fills.exists_foldlM laws.empty (fun _ _ ↦ trivial) hholds
  exact ⟨d, (laws.fills.holds laws.empty hd).2,
    fun absent r hr ↦ (read_eq_ok laws.finish_any absent).mpr ⟨ms, d, hms, hd, hr⟩⟩

/-- What is read from other members whose fields hold the same is the same. -/
theorem read_of_holds (laws : s.Laws slots Same) (hread : s.read v = .ok r)
    (hms : membersAs s.fields v = some ms) (hns : membersAs s.fields w = some ns)
    (hsame : ∀ slot ∈ slots, ∀ x, slot.Holds ms x → slot.Holds ns x) :
    ∃ r', s.read w = .ok r' ∧ Same r' r := by
  obtain ⟨d, hd, hr⟩ := laws.exists_draft hread hms
  obtain ⟨d', hd', hr'⟩ := laws.exists_read hns fun slot hslot ↦
    ⟨_, hsame slot hslot _ (hd slot hslot)⟩
  obtain ⟨r', hfinish, hsame⟩ := laws.finish_same
    (fun slot hslot ↦ (hd' slot hslot).unique (hsame slot hslot _ (hd slot hslot)))
    (hr .missingField)
  exact ⟨r', hr' _ _ hfinish, hsame⟩

end Shape.Laws

end Shape

/-! ### Tagged records -/

section Tagged

variable {Draft Result : Type} {s : Shape Draft Result} {v body : Json} {r : Result} {tag : Tag}
  {ms ns : List (String × Json)} {title : String}

/-- A record that is tagged with its kind. The kind is one more field, and the first. -/
def Shape.tagged (s : Shape Draft Result) : Shape (Option Tag × Draft) (Tag × Result) where
  title := s.title
  fields := "kind" :: s.fields
  empty := (none, s.empty)
  take d field value :=
    if field = "kind" then (once field d.1 (readTag value)).map fun tag ↦ (tag, d.2)
    else (s.take d.2 field value).map fun draft ↦ (d.1, draft)
  finish absent d := do
    let tag ← required absent "kind" d.1
    return (tag, ← s.finish absent d.2)

theorem takeTag_of_ne {state : Option Tag × List (String × Json)} {m : String × Json}
    (hm : m.1 ≠ "kind") : takeTag state m = .ok (state.1, state.2 ++ [m]) :=
  if_neg hm

theorem foldlM_takeTag_snd {state last : Option Tag × List (String × Json)}
    (h : ms.foldlM takeTag state = .ok last) :
    last.2 = state.2 ++ ms.filter fun m ↦ m.1 ≠ "kind" := by
  induction ms generalizing state with
  | nil =>
    obtain rfl : state = last := Except.ok.inj h
    exact (List.append_nil _).symm
  | cons m rest ih =>
    obtain ⟨next, hnext, hrest⟩ := bind_eq_ok.mp h
    rw [ih hrest]
    by_cases hm : m.1 = "kind"
    · rw [takeTag, if_pos hm] at hnext
      obtain ⟨-, -, -, rfl⟩ := fill_eq_ok.mp hnext
      rw [List.filter_cons_of_neg (by simpa using hm)]
    · obtain rfl := Except.ok.inj ((takeTag_of_ne hm).symm.trans hnext)
      rw [List.filter_cons_of_pos (by simpa using hm), List.append_assoc, List.singleton_append]

theorem foldlM_takeTag_of_forall_ne (hms : ∀ m ∈ ms, m.1 ≠ "kind")
    (state : Option Tag × List (String × Json)) :
    ms.foldlM takeTag state = .ok (state.1, state.2 ++ ms) := by
  induction ms generalizing state with
  | nil =>
    rw [List.append_nil]
    rfl
  | cons m rest ih =>
    obtain ⟨hm, hrest⟩ := List.forall_mem_cons.mp hms
    refine bind_eq_ok.mpr ⟨_, takeTag_of_ne hm, ?_⟩
    rw [ih hrest, List.append_assoc, List.singleton_append]

/-- A value has a tag, and the rest of it has members, exactly if its members with the tag among
them can be separated into the two. -/
theorem exists_splitTag_iff {names : List String} (hnames : "kind" ∉ names) :
    (∃ body, splitTag title v = .ok (tag, body) ∧ membersAs names body = some ns) ↔
      ∃ ms, membersAs ("kind" :: names) v = some ms ∧
        ms.foldlM takeTag (none, []) = .ok (some tag, ns) := by
  cases v with
  | null | boolean | number | text => simp [splitTag, membersAs]
  | object members =>
    constructor
    · rintro ⟨body, hsplit, hbody⟩
      obtain ⟨⟨found, rest⟩, hfold, hsplit⟩ := bind_eq_ok.mp hsplit
      obtain ⟨tag', htag, hsplit⟩ := bind_eq_ok.mp hsplit
      obtain ⟨rfl, rfl⟩ := Prod.mk.inj (Except.ok.inj hsplit)
      obtain rfl : rest = ns := Option.some.inj hbody
      obtain rfl : found = some tag' := required_eq_ok.mp htag
      exact ⟨members, rfl, hfold⟩
    · rintro ⟨ms, hms, hfold⟩
      obtain rfl : members = ms := Option.some.inj hms
      exact ⟨.object ns, bind_eq_ok.mpr ⟨_, hfold, rfl⟩, rfl⟩
  | array items =>
    cases items with
    | nil => simp [splitTag, membersAs, List.foldlM, pure, Except.pure]
    | cons first items =>
      have hzip : ∀ m ∈ names.zip items, m.1 ≠ "kind" := fun m hm heq ↦
        hnames (heq ▸ (List.of_mem_zip hm).1)
      have hfold : (("kind", first) :: names.zip items).foldlM takeTag (none, []) =
          .ok (some tag, ns) ↔ readTag first = .ok tag ∧ names.zip items = ns := by
        have htake : takeTag (none, []) ("kind", first) =
            (readTag first).map fun tag ↦ (some tag, []) := by
          rw [takeTag, if_pos rfl]
          cases readTag first <;> rfl
        rw [List.foldlM_cons, htake]
        cases hread : readTag first with
        | error complaint => simp [Except.map, bind, Except.bind]
        | ok found =>
          change (names.zip items).foldlM takeTag (some found, []) = _ ↔ _
          rw [foldlM_takeTag_of_forall_ne hzip]
          simp
      simp only [membersAs, List.length_cons, Nat.add_le_add_iff_right, List.zip_cons_cons]
      constructor
      · rintro ⟨body, hsplit, hbody⟩
        obtain ⟨found, hfound, hsplit⟩ := bind_eq_ok.mp hsplit
        obtain ⟨rfl, rfl⟩ := Prod.mk.inj (Except.ok.inj hsplit)
        dsimp only at hbody
        split_ifs at hbody with hle
        exact ⟨_, if_pos hle, hfold.mpr ⟨hfound, Option.some.inj hbody⟩⟩
      · rintro ⟨ms, hms, hmsFold⟩
        split_ifs at hms with hle
        obtain rfl := Option.some.inj hms
        obtain ⟨hfound, rfl⟩ := hfold.mp hmsFold
        exact ⟨.array items, bind_eq_ok.mpr ⟨tag, hfound, rfl⟩, if_pos hle⟩

/-- To fill the draft of a tagged record is to separate its tag and to fill the draft of the rest.
-/
theorem Shape.foldlM_tagged {start last : Option Tag × Draft} (done : List (String × Json)) :
    ms.foldlM (fun d m ↦ s.tagged.take d m.1 m.2) start = .ok last ↔
      ∃ rest, ms.foldlM takeTag (start.1, done) = .ok (last.1, done ++ rest) ∧
        rest.foldlM (fun d m ↦ s.take d m.1 m.2) start.2 = .ok last.2 := by
  induction ms generalizing start done with
  | nil =>
    constructor
    · intro h
      obtain rfl : start = last := Except.ok.inj h
      exact ⟨[], by rw [List.append_nil]; rfl, rfl⟩
    · rintro ⟨rest, hrest, hfold⟩
      obtain ⟨hfirst, hdone⟩ := Prod.mk.inj (Except.ok.inj hrest)
      obtain rfl := List.self_eq_append_right.mp hdone
      exact congrArg Except.ok (Prod.ext hfirst (Except.ok.inj hfold))
  | cons m ms ih =>
    by_cases hm : m.1 = "kind"
    · have htake : s.tagged.take start m.1 m.2 =
          (once m.1 start.1 (readTag m.2)).map fun tag ↦ (tag, start.2) := if_pos hm
      have hsplit : takeTag (start.1, done) m =
          (once m.1 start.1 (readTag m.2)).map fun tag ↦ (tag, done) := by
        rw [takeTag, if_pos hm, hm]
        cases once "kind" start.1 (readTag m.2) <;> rfl
      rw [List.foldlM_cons, List.foldlM_cons, htake, hsplit]
      cases once m.1 start.1 (readTag m.2) with
      | error complaint => simp [Except.map, bind, Except.bind]
      | ok filled => exact ih done
    · have htake : s.tagged.take start m.1 m.2 =
          (s.take start.2 m.1 m.2).map fun draft ↦ (start.1, draft) := if_neg hm
      rw [List.foldlM_cons, List.foldlM_cons, htake, takeTag_of_ne hm]
      constructor
      · intro h
        obtain ⟨next, hnext, h⟩ := bind_eq_ok.mp h
        obtain ⟨draft, hdraft, rfl⟩ := map_eq_ok.mp hnext
        obtain ⟨rest, hrest, hfold⟩ := (ih (done ++ [m])).mp h
        refine ⟨m :: rest, ?_, bind_eq_ok.mpr ⟨draft, hdraft, hfold⟩⟩
        rw [List.append_assoc] at hrest
        exact hrest
      · rintro ⟨rest, hrest, hfold⟩
        have hsnd := foldlM_takeTag_snd hrest
        rw [List.append_assoc, List.append_right_inj] at hsnd
        subst hsnd
        obtain ⟨draft, hdraft, hfold⟩ := bind_eq_ok.mp hfold
        refine bind_eq_ok.mpr ⟨(start.1, draft), map_eq_ok.mpr ⟨draft, hdraft, rfl⟩, ?_⟩
        refine (ih (done ++ [m])).mpr ⟨_, ?_, hfold⟩
        rw [List.append_assoc]
        exact hrest

theorem Shape.finish_tagged_eq_ok {absent : String → Complaint} {d : Option Tag × Draft} :
    s.tagged.finish absent d = .ok (tag, r) ↔ d.1 = some tag ∧ s.finish absent d.2 = .ok r := by
  change (required absent "kind" d.1 >>= fun tag ↦ s.finish absent d.2 >>= fun r ↦
    .ok (tag, r)) = _ ↔ _
  cases d.1 with
  | none => simp [required, bind, Except.bind]
  | some found => cases s.finish absent d.2 <;> simp [required, bind, Except.bind]

theorem Shape.finish_any_tagged
    (hany : ∀ {absent absent' d r}, s.finish absent d = .ok r → s.finish absent' d = .ok r)
    {absent absent' : String → Complaint} {d : Option Tag × Draft} {x : Tag × Result}
    (h : s.tagged.finish absent d = .ok x) : s.tagged.finish absent' d = .ok x := by
  obtain ⟨htag, hr⟩ := finish_tagged_eq_ok.mp h
  exact finish_tagged_eq_ok.mpr ⟨htag, hany hr⟩

/-- A tagged record is read by separating its tag and reading the rest. -/
theorem Shape.read_tagged_eq_ok
    (hany : ∀ {absent absent' d r}, s.finish absent d = .ok r → s.finish absent' d = .ok r)
    (hfields : "kind" ∉ s.fields) :
    s.tagged.read v = .ok (tag, r) ↔
      ∃ body, splitTag title v = .ok (tag, body) ∧ s.read body = .ok r := by
  rw [read_eq_ok (s := s.tagged) (finish_any_tagged hany) .missingField]
  simp only [read_eq_ok (s := s) hany .missingField]
  constructor
  · rintro ⟨ms, d, hms, hfold, hd⟩
    obtain ⟨htag, hr⟩ := finish_tagged_eq_ok.mp hd
    obtain ⟨rest, hrest, hdraft⟩ := (foldlM_tagged []).mp hfold
    rw [htag] at hrest
    obtain ⟨body, hsplit, hbody⟩ := (exists_splitTag_iff hfields).mpr ⟨ms, hms, hrest⟩
    exact ⟨body, hsplit, rest, d.2, hbody, hdraft, hr⟩
  · rintro ⟨body, hsplit, rest, d, hbody, hdraft, hr⟩
    obtain ⟨ms, hms, hrest⟩ := (exists_splitTag_iff hfields).mp ⟨body, hsplit, hbody⟩
    exact ⟨ms, (some tag, d), hms, (foldlM_tagged []).mpr ⟨rest, hrest, hdraft⟩,
      finish_tagged_eq_ok.mpr ⟨rfl, hr⟩⟩

theorem exists_splitTag_of_read {slots : List (Slot Draft String Json Complaint)}
    {Same : Result → Result → Prop} (laws : s.Laws slots Same) (hfields : "kind" ∉ s.fields)
    (h : s.tagged.read v = .ok (tag, r)) : ∃ body, splitTag title v = .ok (tag, body) := by
  obtain ⟨body, hsplit, -⟩ := (Shape.read_tagged_eq_ok laws.finish_any hfields).mp h
  exact ⟨body, hsplit⟩

/-- A field of the draft behind a tag. -/
def Slot.behind (slot : Slot Draft String Json Complaint) :
    Slot (Option Tag × Draft) String Json Complaint where
  Value := slot.Value
  takes := slot.takes
  read := slot.read
  get d := slot.get d.2

/-- The fields of a tagged record. -/
def taggedSlots (slots : List (Slot Draft String Json Complaint)) :
    List (Slot (Option Tag × Draft) String Json Complaint) :=
  fieldSlot ["kind"] readTag Prod.fst :: slots.map Slot.behind

/-- A tagged record has the fields of the record and its kind. -/
theorem Shape.Laws.tagged {slots : List (Slot Draft String Json Complaint)}
    {Same : Result → Result → Prop} (laws : s.Laws slots Same)
    (hkind : ∀ slot ∈ slots, slot.takes "kind" = false) :
    s.tagged.Laws (taggedSlots slots) (fun x y ↦ x.1 = y.1 ∧ Same x.2 y.2) where
  fills := {
    takes := by
      rintro d ⟨key, value⟩ next h
      refine ⟨trivial, List.forall_mem_cons.mpr ⟨?_, List.forall_mem_map.mpr fun slot hslot ↦ ?_⟩⟩
      all_goals
        change (if key = "kind" then _ else _) = Except.ok next at h
        split_ifs at h with hkey
      · obtain ⟨hnone, tag, htag, rfl⟩ := fill_eq_ok.mp h
        simp [Slot.Takes, fieldSlot, hkey, hnone, htag]
      · obtain ⟨draft, -, rfl⟩ := map_eq_ok.mp h
        simp [Slot.Takes, fieldSlot, hkey]
      · obtain ⟨-, -, -, rfl⟩ := fill_eq_ok.mp h
        rw [Slot.takes_iff_of_not (hkey ▸ hkind slot hslot)]
        rfl
      · obtain ⟨draft, hdraft, rfl⟩ := map_eq_ok.mp h
        exact (laws.fills.takes (m := (key, value)) hdraft).2 slot hslot
    exists_take := by
      rintro d ⟨key, value⟩ - h
      obtain ⟨htag, hslots⟩ := List.forall_mem_cons.mp h
      change ∃ next, (if key = "kind" then _ else _) = Except.ok next
      split_ifs with hkey
      · obtain ⟨hnone, tag, hread⟩ := Slot.exists_takes_iff.mp htag (by simp [fieldSlot, hkey])
        exact ⟨_, fill_eq_ok.mpr ⟨hnone, tag, hread, rfl⟩⟩
      · obtain ⟨draft, hdraft⟩ := laws.fills.exists_take (d := d.2) (m := (key, value)) trivial
          fun slot hslot ↦ List.forall_mem_map.mp hslots slot hslot
        exact ⟨_, map_eq_ok.mpr ⟨draft, hdraft, rfl⟩⟩ }
  empty := List.forall_mem_cons.mpr ⟨rfl, List.forall_mem_map.mpr laws.empty⟩
  finish_any := finish_any_tagged laws.finish_any
  finish_same := by
    rintro absent d d' ⟨tag, r⟩ hsame h
    obtain ⟨htag, hslots⟩ := List.forall_mem_cons.mp hsame
    obtain ⟨hd, hr⟩ := finish_tagged_eq_ok.mp h
    obtain ⟨r', hr', hsame⟩ := laws.finish_same (List.forall_mem_map.mp hslots) hr
    exact ⟨(tag, r'), finish_tagged_eq_ok.mpr ⟨htag.trans hd, hr'⟩, rfl, hsame⟩

end Tagged

/-! ### The fields of the records -/

/-- The fields of an attribute. -/
def AttributeDraft.slots : List (Slot AttributeDraft String Json Complaint) := [
  fieldSlot ["name"] readText AttributeDraft.name,
  fieldSlot ["type"] (fun v ↦ .ok (readType v)) AttributeDraft.declaredType,
  fieldSlot ["multiplicity"] (fun v ↦ .ok (lenientText? v)) AttributeDraft.multiplicity,
  fieldSlot ["isId", "isID"] readFlag AttributeDraft.isId,
  fieldSlot ["isUnique"] readFlag AttributeDraft.isUnique,
  fieldSlot ["defaultValue"] (fun v ↦ .ok (lenientText v)) AttributeDraft.defaultValue,
  fieldSlot ["documentation"] (fun v ↦ .ok (lenientText v)) AttributeDraft.documentation,
  fieldSlot ["classification"] (fun v ↦ .ok (lenientText v)) AttributeDraft.classification]

theorem Attribute.finish_eq_ok {absent : String → Complaint} {d : AttributeDraft} {a : Attribute} :
    shape.finish absent d = .ok a ↔ d.name = some a.name ∧
      d.declaredType.getD (.name "") = a.declaredType ∧ d.multiplicity.getD none = a.multiplicity ∧
      d.isId.getD false = a.isId ∧ d.isUnique.getD false = a.isUnique ∧
      d.defaultValue.getD "" = a.defaultValue ∧ d.documentation.getD "" = a.documentation ∧
      d.classification.getD "" = a.classification := by
  obtain ⟨name, type, multiplicity, isId, isUnique, defaultValue, documentation,
    classification⟩ := a
  cases hname : d.name <;>
    simp [shape, required, hname, bind, Except.bind, pure, Except.pure]

theorem Attribute.laws : Attribute.shape.Laws AttributeDraft.slots Eq where
  fills := {
    takes := by
      rintro d ⟨key, value⟩ next h
      refine ⟨trivial, ?_⟩
      change d.take key value = .ok next at h
      unfold AttributeDraft.take at h
      split at h
      case h_10 =>
        obtain rfl : d = next := Except.ok.inj h
        simp_all [AttributeDraft.slots, Slot.Takes, fieldSlot]
      all_goals
        obtain ⟨hnone, x, hx, rfl⟩ := fill_eq_ok.mp h
        simp [AttributeDraft.slots, Slot.Takes, fieldSlot, hnone, hx]
    exists_take := by
      rintro d ⟨key, value⟩ - h
      change ∃ next, d.take key value = .ok next
      simp only [Slot.exists_takes_iff, AttributeDraft.slots, fieldSlot, List.forall_mem_cons,
        decide_eq_true_eq] at h
      unfold AttributeDraft.take
      split
      case h_10 => exact ⟨d, rfl⟩
      all_goals
        simp only [List.mem_cons, List.not_mem_nil, or_false, String.reduceEq, or_self,
          false_implies, true_implies, and_true, true_and, or_true, implies_true] at h
        obtain ⟨hnone, x, hx⟩ := h
        exact ⟨_, fill_eq_ok.mpr ⟨hnone, x, hx, rfl⟩⟩ }
  empty := by simp [AttributeDraft.slots, fieldSlot, shape]
  finish_any h := finish_eq_ok.mpr (finish_eq_ok.mp h)
  finish_same := by
    intro absent d d' r hsame h
    simp only [AttributeDraft.slots, fieldSlot, List.forall_mem_cons, List.not_mem_nil,
      false_implies, implies_true, and_true] at hsame
    refine ⟨r, finish_eq_ok.mpr ?_, rfl⟩
    simpa only [hsame] using finish_eq_ok.mp h

/-- The fields of an association end. -/
def EndDraft.slots : List (Slot EndDraft String Json Complaint) := [
  fieldSlot ["name"] (fun v ↦ .ok (lenientText v)) EndDraft.name,
  fieldSlot ["reference"] readText EndDraft.reference]

theorem End.finish_eq_ok {absent : String → Complaint} {d : EndDraft} {e : End} :
    shape.finish absent d = .ok e ↔ d.reference = some e.reference ∧ d.name.getD "" = e.name := by
  obtain ⟨name, reference⟩ := e
  cases href : d.reference <;>
    simp [shape, required, href, bind, Except.bind, pure, Except.pure, and_comm]

theorem End.laws : End.shape.Laws EndDraft.slots Eq where
  fills := {
    takes := by
      rintro d ⟨key, value⟩ next h
      refine ⟨trivial, ?_⟩
      change d.take key value = .ok next at h
      unfold EndDraft.take at h
      split at h
      case h_3 =>
        obtain rfl : d = next := Except.ok.inj h
        simp_all [EndDraft.slots, Slot.Takes, fieldSlot]
      all_goals
        obtain ⟨hnone, x, hx, rfl⟩ := fill_eq_ok.mp h
        simp [EndDraft.slots, Slot.Takes, fieldSlot, hnone, hx]
    exists_take := by
      rintro d ⟨key, value⟩ - h
      change ∃ next, d.take key value = .ok next
      simp only [Slot.exists_takes_iff, EndDraft.slots, fieldSlot, List.forall_mem_cons,
        decide_eq_true_eq] at h
      unfold EndDraft.take
      split
      case h_3 => exact ⟨d, rfl⟩
      all_goals
        simp only [List.mem_cons, List.not_mem_nil, or_false, String.reduceEq, or_self,
          false_implies, true_implies, and_true, true_and, implies_true] at h
        obtain ⟨hnone, x, hx⟩ := h
        exact ⟨_, fill_eq_ok.mpr ⟨hnone, x, hx, rfl⟩⟩ }
  empty := by simp [EndDraft.slots, fieldSlot, shape]
  finish_any h := finish_eq_ok.mpr (finish_eq_ok.mp h)
  finish_same := by
    intro absent d d' r hsame h
    simp only [EndDraft.slots, fieldSlot, List.forall_mem_cons, List.not_mem_nil, false_implies,
      implies_true, and_true] at hsame
    refine ⟨r, finish_eq_ok.mpr ?_, rfl⟩
    simpa only [hsame] using finish_eq_ok.mp h

/-- The fields of an association. -/
def AssociationDraft.slots : List (Slot AssociationDraft String Json Complaint) := [
  fieldSlot ["id"] readText AssociationDraft.id,
  fieldSlot ["end1"] End.shape.read AssociationDraft.referencing,
  fieldSlot ["end2"] End.shape.read AssociationDraft.referenced]

theorem Association.finish_eq_ok {absent : String → Complaint} {d : AssociationDraft}
    {a : Association} : shape.finish absent d = .ok a ↔
      d.referencing = some a.referencing ∧ d.referenced = some a.referenced ∧
        d.id.getD "" = a.id := by
  obtain ⟨id, referencing, referenced⟩ := a
  cases hfirst : d.referencing <;> cases hsecond : d.referenced <;>
    simp [shape, required, hfirst, hsecond, bind, Except.bind, pure, Except.pure, and_comm,
      and_assoc]

theorem Association.laws : Association.shape.Laws AssociationDraft.slots Eq where
  fills := {
    takes := by
      rintro d ⟨key, value⟩ next h
      refine ⟨trivial, ?_⟩
      change d.take key value = .ok next at h
      unfold AssociationDraft.take at h
      split at h
      case h_4 =>
        obtain rfl : d = next := Except.ok.inj h
        simp_all [AssociationDraft.slots, Slot.Takes, fieldSlot]
      all_goals
        obtain ⟨hnone, x, hx, rfl⟩ := fill_eq_ok.mp h
        simp [AssociationDraft.slots, Slot.Takes, fieldSlot, hnone, hx]
    exists_take := by
      rintro d ⟨key, value⟩ - h
      change ∃ next, d.take key value = .ok next
      simp only [Slot.exists_takes_iff, AssociationDraft.slots, fieldSlot, List.forall_mem_cons,
        decide_eq_true_eq] at h
      unfold AssociationDraft.take
      split
      case h_4 => exact ⟨d, rfl⟩
      all_goals
        simp only [List.mem_cons, List.not_mem_nil, or_false, String.reduceEq, or_self,
          false_implies, true_implies, and_true, true_and, implies_true] at h
        obtain ⟨hnone, x, hx⟩ := h
        exact ⟨_, fill_eq_ok.mpr ⟨hnone, x, hx, rfl⟩⟩ }
  empty := by simp [AssociationDraft.slots, fieldSlot, shape]
  finish_any h := finish_eq_ok.mpr (finish_eq_ok.mp h)
  finish_same := by
    intro absent d d' r hsame h
    simp only [AssociationDraft.slots, fieldSlot, List.forall_mem_cons, List.not_mem_nil,
      false_implies, implies_true, and_true] at hsame
    refine ⟨r, finish_eq_ok.mpr ?_, rfl⟩
    simpa only [hsame] using finish_eq_ok.mp h

/-- The fields of a class, with what it owns seen through a function. -/
def ClassDraft.slots {α : Type} (f : List Owned → α) :
    List (Slot ClassDraft String Json Complaint) := [
  fieldSlot ["id"] readText ClassDraft.id,
  fieldSlot ["name"] readText ClassDraft.name,
  fieldSlot ["classification"] (fun v ↦ .ok (lenientText v)) ClassDraft.classification,
  fieldSlot ["attributes"] (readList Attribute.shape.read) ClassDraft.attributes,
  fieldSlot ["ownedElements"] (fun v ↦ (readList readOwned v).map f) fun d ↦ d.owned.map f]

/-- Whether two classes are the same but for what they own, of which a function sees the same. -/
def Class.SameBut {α : Type} (f : List Owned → α) (c c' : Class) : Prop :=
  { c with owned := [] } = { c' with owned := [] } ∧ f c.owned = f c'.owned

theorem Class.finish_eq_ok {absent : String → Complaint} {d : ClassDraft} {c : Class} :
    shape.finish absent d = .ok c ↔ d.id = some c.id ∧ d.name = some c.name ∧
      d.classification.getD "" = c.classification ∧ d.attributes.getD [] = c.attributes ∧
        d.owned.getD [] = c.owned := by
  obtain ⟨id, name, classification, attributes, owned⟩ := c
  cases hid : d.id <;> cases hname : d.name <;>
    simp [shape, required, hid, hname, bind, Except.bind, pure, Except.pure]

theorem Class.laws {α : Type} (f : List Owned → α) :
    Class.shape.Laws (ClassDraft.slots f) (Class.SameBut f) where
  fills := {
    takes := by
      rintro d ⟨key, value⟩ next h
      refine ⟨trivial, ?_⟩
      change d.take key value = .ok next at h
      unfold ClassDraft.take at h
      split at h
      case h_6 =>
        obtain rfl : d = next := Except.ok.inj h
        simp_all [ClassDraft.slots, Slot.Takes, fieldSlot]
      all_goals
        obtain ⟨hnone, x, hx, rfl⟩ := fill_eq_ok.mp h
        simp [ClassDraft.slots, Slot.Takes, fieldSlot, hnone, hx, Except.map]
    exists_take := by
      rintro d ⟨key, value⟩ - h
      change ∃ next, d.take key value = .ok next
      simp only [Slot.exists_takes_iff, ClassDraft.slots, fieldSlot, List.forall_mem_cons,
        decide_eq_true_eq, Option.map_eq_none_iff, map_eq_ok] at h
      unfold ClassDraft.take
      split
      case h_6 => exact ⟨d, rfl⟩
      all_goals
        simp only [List.mem_cons, List.not_mem_nil, or_false, String.reduceEq, or_self,
          false_implies, true_implies, and_true, true_and, implies_true] at h
      case h_5 =>
        obtain ⟨hnone, -, owned, howned, -⟩ := h
        exact ⟨_, fill_eq_ok.mpr ⟨hnone, owned, howned, rfl⟩⟩
      all_goals
        obtain ⟨hnone, x, hx⟩ := h
        exact ⟨_, fill_eq_ok.mpr ⟨hnone, x, hx, rfl⟩⟩ }
  empty := by simp [ClassDraft.slots, fieldSlot, shape]
  finish_any h := finish_eq_ok.mpr (finish_eq_ok.mp h)
  finish_same := by
    intro absent d d' c hsame h
    simp only [ClassDraft.slots, fieldSlot, List.forall_mem_cons, List.not_mem_nil, false_implies,
      implies_true, and_true] at hsame
    obtain ⟨hid, hname, hclassification, hattributes, howned⟩ := hsame
    obtain ⟨hc, hcName, hcClassification, hcAttributes, hcOwned⟩ := finish_eq_ok.mp h
    refine ⟨{ c with owned := d'.owned.getD [] }, finish_eq_ok.mpr ?_, rfl, ?_⟩
    · rw [hid, hname, hclassification, hattributes]
      exact ⟨hc, hcName, hcClassification, hcAttributes, rfl⟩
    · have hseen (slot : Option (List Owned)) : f (slot.getD []) = (slot.map f).getD (f []) := by
        cases slot <;> rfl
      change f (d'.owned.getD []) = f c.owned
      rw [← hcOwned, hseen, hseen, howned]

/-- The fields of a literal. -/
def LiteralDraft.slots : List (Slot LiteralDraft String Json Complaint) := [
  fieldSlot ["name"] readText LiteralDraft.name,
  fieldSlot ["documentation"] (fun v ↦ .ok (lenientText v)) LiteralDraft.documentation]

theorem Literal.finish_eq_ok {absent : String → Complaint} {d : LiteralDraft} {l : Literal} :
    shape.finish absent d = .ok l ↔
      d.name = some l.name ∧ d.documentation.getD "" = l.documentation := by
  obtain ⟨name, reference⟩ := l
  cases href : d.name <;>
    simp [shape, required, href, bind, Except.bind, pure, Except.pure]

theorem Literal.laws : Literal.shape.Laws LiteralDraft.slots Eq where
  fills := {
    takes := by
      rintro d ⟨key, value⟩ next h
      refine ⟨trivial, ?_⟩
      change d.take key value = .ok next at h
      unfold LiteralDraft.take at h
      split at h
      case h_3 =>
        obtain rfl : d = next := Except.ok.inj h
        simp_all [LiteralDraft.slots, Slot.Takes, fieldSlot]
      all_goals
        obtain ⟨hnone, x, hx, rfl⟩ := fill_eq_ok.mp h
        simp [LiteralDraft.slots, Slot.Takes, fieldSlot, hnone, hx]
    exists_take := by
      rintro d ⟨key, value⟩ - h
      change ∃ next, d.take key value = .ok next
      simp only [Slot.exists_takes_iff, LiteralDraft.slots, fieldSlot, List.forall_mem_cons,
        decide_eq_true_eq] at h
      unfold LiteralDraft.take
      split
      case h_3 => exact ⟨d, rfl⟩
      all_goals
        simp only [List.mem_cons, List.not_mem_nil, or_false, String.reduceEq, or_self,
          false_implies, true_implies, and_true, true_and, implies_true] at h
        obtain ⟨hnone, x, hx⟩ := h
        exact ⟨_, fill_eq_ok.mpr ⟨hnone, x, hx, rfl⟩⟩ }
  empty := by simp [LiteralDraft.slots, fieldSlot, shape]
  finish_any h := finish_eq_ok.mpr (finish_eq_ok.mp h)
  finish_same := by
    intro absent d d' r hsame h
    simp only [LiteralDraft.slots, fieldSlot, List.forall_mem_cons, List.not_mem_nil, false_implies,
      implies_true, and_true] at hsame
    refine ⟨r, finish_eq_ok.mpr ?_, rfl⟩
    simpa only [hsame] using finish_eq_ok.mp h

/-- The fields of an enumeration. -/
def EnumerationDraft.slots : List (Slot EnumerationDraft String Json Complaint) := [
  fieldSlot ["id"] readText EnumerationDraft.id,
  fieldSlot ["name"] readText EnumerationDraft.name,
  fieldSlot ["literals"] (readList Literal.shape.read) EnumerationDraft.literals]

theorem Enumeration.finish_eq_ok {absent : String → Complaint} {d : EnumerationDraft}
    {e : Enumeration} : shape.finish absent d = .ok e ↔
      d.id = some e.id ∧ d.name = some e.name ∧ d.literals.getD [] = e.literals := by
  obtain ⟨id, name, literals⟩ := e
  cases hid : d.id <;> cases hname : d.name <;>
    simp [shape, required, hid, hname, bind, Except.bind, pure, Except.pure]

theorem Enumeration.laws : Enumeration.shape.Laws EnumerationDraft.slots Eq where
  fills := {
    takes := by
      rintro d ⟨key, value⟩ next h
      refine ⟨trivial, ?_⟩
      change d.take key value = .ok next at h
      unfold EnumerationDraft.take at h
      split at h
      case h_4 =>
        obtain rfl : d = next := Except.ok.inj h
        simp_all [EnumerationDraft.slots, Slot.Takes, fieldSlot]
      all_goals
        obtain ⟨hnone, x, hx, rfl⟩ := fill_eq_ok.mp h
        simp [EnumerationDraft.slots, Slot.Takes, fieldSlot, hnone, hx]
    exists_take := by
      rintro d ⟨key, value⟩ - h
      change ∃ next, d.take key value = .ok next
      simp only [Slot.exists_takes_iff, EnumerationDraft.slots, fieldSlot, List.forall_mem_cons,
        decide_eq_true_eq] at h
      unfold EnumerationDraft.take
      split
      case h_4 => exact ⟨d, rfl⟩
      all_goals
        simp only [List.mem_cons, List.not_mem_nil, or_false, String.reduceEq, or_self,
          false_implies, true_implies, and_true, true_and, implies_true] at h
        obtain ⟨hnone, x, hx⟩ := h
        exact ⟨_, fill_eq_ok.mpr ⟨hnone, x, hx, rfl⟩⟩ }
  empty := by simp [EnumerationDraft.slots, fieldSlot, shape]
  finish_any h := finish_eq_ok.mpr (finish_eq_ok.mp h)
  finish_same := by
    intro absent d d' r hsame h
    simp only [EnumerationDraft.slots, fieldSlot, List.forall_mem_cons, List.not_mem_nil,
      false_implies, implies_true, and_true] at hsame
    refine ⟨r, finish_eq_ok.mpr ?_, rfl⟩
    simpa only [hsame] using finish_eq_ok.mp h

end DiagramMigrations.Diagram
