import DiagramMigrations.Proofs.Json.Splicing
import DiagramMigrations.Proofs.Lists

/-!
The values of a whole text. Each of them stands somewhere in it: the tokens of an array or object
are those of its parts one after the other, with marks between them, and a mark is a character of
its own.
-/

set_option autoImplicit false
set_option relaxedAutoImplicit false

namespace DiagramMigrations.Json

/-! ### The tokens of a value -/

/-- Whether tokens are those of one value, with a tree that is whole at its end. -/
def Tree.Spells (t : Tree) (ts : List Token) : Prop :=
  readTree [] .value ts = (t, []) ∧ t.IsClosed

/-- The tokens of a list with commas between those of its elements. -/
def joined : List (List Token) → List Token
  | [] => []
  | first :: rest => first ++ rest.flatMap (Token.comma :: ·)

section Tokens

variable {outer inner : List Frame} {expect : Expect} {token : Token} {t u y : Tree}
  {ts rest : List Token}

theorem Progress.place_eq_complete {placed : Tree} (h : place outer placed = .complete t) :
    outer = [] ∧ placed = t := by
  rcases outer with - | ⟨_ | _, outer⟩ <;> cases h
  exact ⟨rfl, rfl⟩

theorem Progress.isClosed_of_begin (h : begin outer token = .complete t) : t.IsClosed := by
  unfold begin at h
  split at h
  all_goals first
    | exact (place_eq_complete h).2 ▸ trivial
    | cases h

/-- A value that is complete is whole at its end. -/
theorem Progress.isClosed_of_step (h : step outer expect token = .complete t) : t.IsClosed := by
  unfold step at h
  split at h
  all_goals first
    | exact isClosed_of_begin h
    | exact (place_eq_complete h).2 ▸ rfl
    | cases h

/-- The tokens of a value inside others come first, and the others go on behind it. -/
theorem exists_spells_of_readTree (h : readTree (outer ++ inner) expect ts = (t, rest))
    (ht : t.IsClosed) : ∃ front back u, ts = front ++ back ∧ readTree outer expect front = (u, []) ∧
      u.IsClosed ∧ resume (Progress.place inner u) back = (t, rest) := by
  induction ts generalizing outer expect with
  | nil => exact absurd ht (not_isClosed_of_readTree_nil h)
  | cons token ts ih =>
    rw [readTree_cons, Progress.step_append] at h
    cases hstep : Progress.step outer expect token with
    | going outer' expect' =>
      rw [hstep] at h
      obtain ⟨front, back, u, rfl, hfront, hu, hback⟩ := ih h
      exact ⟨token :: front, back, u, rfl, by rw [readTree_cons, hstep]; exact hfront, hu, hback⟩
    | complete u =>
      rw [hstep] at h
      exact ⟨[token], ts, u, rfl, by rw [readTree_cons, hstep]; rfl,
        Progress.isClosed_of_step hstep, h⟩
    | broken u =>
      rw [hstep] at h
      obtain ⟨rfl, -⟩ := Prod.mk.inj h
      exact absurd ht (not_isClosed_breakOff (Progress.not_isClosed_of_step hstep) inner)

/-- The tokens of a value come first where one begins. -/
theorem exists_spells_of_opens (h : readTree outer expect ts = (t, rest)) (ht : t.IsClosed)
    (hopens : Opens outer expect inner) (hts : ts.head? ≠ some .closeArray) :
    ∃ front back u, ts = front ++ back ∧ u.Spells front ∧
      resume (Progress.place inner u) back = (t, rest) := by
  have hvalue : readTree ([] ++ inner) .value ts = (t, rest) := by
    cases ts with
    | nil => exact absurd ht (not_isClosed_of_readTree_nil h)
    | cons token ts =>
      rw [readTree_cons, hopens.step_eq (by simpa using hts)] at h
      rw [readTree_cons]
      exact h
  obtain ⟨front, back, u, hts, hfront, hu, hback⟩ := exists_spells_of_readTree hvalue ht
  exact ⟨front, back, u, hts, ⟨hfront, hu⟩, hback⟩

/-- What follows an element of an array. -/
theorem exists_items {done : List Tree} (h : readTree [] (.itemEnd done) ts = (t, []))
    (ht : t.IsClosed) : ∃ more mss, t = .array (done.reverse ++ more) .closed ∧
      List.Forall₂ Tree.Spells more mss ∧
      ts = mss.flatMap (Token.comma :: ·) ++ [.closeArray] := by
  induction hlength : ts.length using Nat.strong_induction_on generalizing ts done with
  | _ length ih =>
  cases ts with
  | nil => exact absurd ht (not_isClosed_of_readTree_nil h)
  | cons token ts =>
    cases token with
    | closeArray =>
      obtain ⟨rfl, rfl⟩ := Prod.mk.inj h
      exact ⟨[], [], by rw [List.append_nil], .nil, rfl⟩
    | comma =>
      change readTree [] (.nextItem done) ts = _ at h
      have hhead : ts.head? ≠ some .closeArray := by
        intro hhead
        obtain ⟨ts, rfl⟩ := List.head?_eq_some_iff.mp hhead
        exact not_isClosed_of_readTree_cons ⟨_, rfl⟩ h ht
      obtain ⟨front, back, u, rfl, hu, hback⟩ :=
        exists_spells_of_opens h ht (.nextItem [] done) hhead
      have hshorter : back.length < length := by
        rw [← hlength, List.length_cons, List.length_append]
        omega
      obtain ⟨more, mss, rfl, hmore, rfl⟩ := ih back.length hshorter hback rfl
      exact ⟨u :: more, front :: mss, by simp, .cons hu hmore, by simp⟩
    | _ => exact absurd ht (not_isClosed_of_readTree_cons ⟨_, rfl⟩ h)

/-- Whether tokens are those of a member: its key, a colon, and those of its value. -/
def MemberSpells (m : Key × Tree) (ts : List Token) : Prop :=
  ∃ vs, m.2.Spells vs ∧ ts = .text m.1 :: .colon :: vs

/-- What follows a key. -/
theorem exists_memberValue {done : List (Key × Tree)} {key : Key}
    (h : readTree [] (.colon done key) ts = (t, [])) (ht : t.IsClosed) :
    ∃ vs back u, ts = .colon :: vs ++ back ∧ u.Spells vs ∧
      readTree [] (.memberEnd ((key, u) :: done)) back = (t, []) := by
  cases ts with
  | nil => exact absurd ht (not_isClosed_of_readTree_nil h)
  | cons token ts =>
    cases token with
    | colon =>
      obtain ⟨front, back, u, rfl, hread, hu, hback⟩ :=
        @exists_spells_of_readTree [] [.member done key] .value _ _ _ h ht
      exact ⟨front, back, u, rfl, ⟨hread, hu⟩, hback⟩
    | _ => exact absurd ht (not_isClosed_of_readTree_cons ⟨_, rfl⟩ h)

/-- What follows a member of an object. -/
theorem exists_members {done : List (Key × Tree)} (h : readTree [] (.memberEnd done) ts = (t, []))
    (ht : t.IsClosed) : ∃ more mss, t = .object (done.reverse ++ more) .closed ∧
      List.Forall₂ MemberSpells more mss ∧
      ts = mss.flatMap (Token.comma :: ·) ++ [.closeObject] := by
  induction hlength : ts.length using Nat.strong_induction_on generalizing ts done with
  | _ length ih =>
  rcases ts with - | ⟨token, ts⟩
  · exact absurd ht (not_isClosed_of_readTree_nil h)
  cases token with
  | closeObject =>
    obtain ⟨rfl, rfl⟩ := Prod.mk.inj h
    exact ⟨[], [], by rw [List.append_nil], .nil, rfl⟩
  | comma =>
    change readTree [] (.nextKey done) ts = _ at h
    rcases ts with - | ⟨token, ts⟩
    · exact absurd ht (not_isClosed_of_readTree_nil h)
    cases token with
    | text key =>
      obtain ⟨vs, back, u, rfl, hu, hback⟩ := exists_memberValue h ht
      have hshorter : back.length < length := by
        rw [← hlength, List.length_cons, List.length_cons, List.cons_append, List.length_cons,
          List.length_append]
        omega
      obtain ⟨more, mss, rfl, hmore, rfl⟩ := ih back.length hshorter hback rfl
      exact ⟨(key, u) :: more, (.text key :: .colon :: vs) :: mss, by simp,
        .cons ⟨vs, hu, rfl⟩ hmore, by simp⟩
    | _ => exact absurd ht (not_isClosed_of_readTree_cons ⟨_, rfl⟩ h)
  | _ => exact absurd ht (not_isClosed_of_readTree_cons ⟨_, rfl⟩ h)

theorem exists_items_of_firstItem (h : readTree [] .firstItem ts = (t, [])) (ht : t.IsClosed) :
    ∃ items mss, t = .array items .closed ∧ List.Forall₂ Tree.Spells items mss ∧
      ts = joined mss ++ [.closeArray] := by
  by_cases hhead : ts.head? = some .closeArray
  · obtain ⟨ts, rfl⟩ := List.head?_eq_some_iff.mp hhead
    obtain ⟨rfl, rfl⟩ := Prod.mk.inj h
    exact ⟨[], [], rfl, .nil, rfl⟩
  · obtain ⟨front, back, u, rfl, hu, hback⟩ := exists_spells_of_opens h ht (.firstItem []) hhead
    obtain ⟨more, mss, rfl, hmore, rfl⟩ := exists_items hback ht
    exact ⟨u :: more, front :: mss, rfl, .cons hu hmore, by rw [joined, List.append_assoc]⟩

theorem exists_members_of_firstKey (h : readTree [] .firstKey ts = (t, [])) (ht : t.IsClosed) :
    ∃ members mss, t = .object members .closed ∧ List.Forall₂ MemberSpells members mss ∧
      ts = joined mss ++ [.closeObject] := by
  rcases ts with - | ⟨token, ts⟩
  · exact absurd ht (not_isClosed_of_readTree_nil h)
  cases token with
  | closeObject =>
    obtain ⟨rfl, rfl⟩ := Prod.mk.inj h
    exact ⟨[], [], rfl, .nil, rfl⟩
  | text key =>
    obtain ⟨vs, back, u, rfl, hu, hback⟩ := exists_memberValue h ht
    obtain ⟨more, mss, rfl, hmore, rfl⟩ := exists_members hback ht
    exact ⟨(key, u) :: more, (.text key :: .colon :: vs) :: mss, rfl, .cons ⟨vs, hu, rfl⟩ hmore,
      by simp [joined]⟩
  | _ => exact absurd ht (not_isClosed_of_readTree_cons ⟨_, rfl⟩ h)

/-- The tokens of an array are those of its elements, with commas between them. -/
theorem Tree.Spells.exists_items {items : List Tree} {stop : Stop}
    (h : (Tree.array items stop).Spells ts) : ∃ mss, List.Forall₂ Tree.Spells items mss ∧
      ts = .openArray :: joined mss ++ [.closeArray] := by
  obtain ⟨h, ht⟩ := h
  rcases ts with - | ⟨token, ts⟩
  · exact absurd ht (not_isClosed_of_readTree_nil h)
  cases token with
  | openArray =>
    obtain ⟨items', mss, heq, hitems, rfl⟩ := exists_items_of_firstItem h ht
    obtain ⟨rfl, -⟩ := Tree.array.inj heq
    exact ⟨mss, hitems, rfl⟩
  | openObject =>
    obtain ⟨members, mss, heq, -⟩ := exists_members_of_firstKey h ht
    cases heq
  | text value => rcases value with ⟨read, - | skip⟩ | value <;> cases (Prod.mk.inj h).1
  | _ => cases (Prod.mk.inj h).1

/-- The tokens of an object are those of its members, with commas between them. -/
theorem Tree.Spells.exists_members {members : List (Key × Tree)} {stop : Stop}
    (h : (Tree.object members stop).Spells ts) : ∃ mss, List.Forall₂ MemberSpells members mss ∧
      ts = .openObject :: joined mss ++ [.closeObject] := by
  obtain ⟨h, ht⟩ := h
  rcases ts with - | ⟨token, ts⟩
  · exact absurd ht (not_isClosed_of_readTree_nil h)
  cases token with
  | openArray =>
    obtain ⟨items, mss, heq, -⟩ := exists_items_of_firstItem h ht
    cases heq
  | openObject =>
    obtain ⟨members', mss, heq, hmembers, rfl⟩ := exists_members_of_firstKey h ht
    obtain ⟨rfl, -⟩ := Tree.object.inj heq
    exact ⟨mss, hmembers, rfl⟩
  | text value => rcases value with ⟨read, - | skip⟩ | value <;> cases (Prod.mk.inj h).1
  | _ => cases (Prod.mk.inj h).1

/-! ### Up to a value -/

/-- The tokens of a value bring the reader to where it stands once the value is placed. -/
theorem advance?_of_place {outer' : List Frame} {expect' : Expect}
    (h : readTree outer expect ts = (u, [])) (hu : u.IsClosed)
    (hplace : Progress.place inner u = .going outer' expect') (rest : List Token) :
    advance? (outer ++ inner) expect (ts ++ rest) = advance? outer' expect' rest := by
  induction ts generalizing outer expect with
  | nil => exact absurd hu (not_isClosed_of_readTree_nil h)
  | cons token ts ih =>
    rw [List.cons_append, advance?, Progress.step_append]
    cases hstep : Progress.step outer expect token with
    | going outer₁ expect₁ =>
      rw [readTree_cons, hstep] at h
      exact ih h
    | complete found =>
      rw [readTree_cons, hstep] at h
      obtain ⟨rfl, rfl⟩ := Prod.mk.inj h
      rw [Progress.over, hplace]
      rfl
    | broken found => exact absurd hu (not_isClosed_of_readTree_cons ⟨_, hstep⟩ h)

theorem Tree.Spells.ne_closeArray (h : u.Spells ts) : ts.head? ≠ some .closeArray := by
  intro hhead
  obtain ⟨ts, rfl⟩ := List.head?_eq_some_iff.mp hhead
  exact not_isClosed_of_readTree_cons ⟨_, rfl⟩ h.1 h.2

/-- The same wherever a value may begin. -/
theorem Tree.Spells.advance?_of_opens {outer' : List Frame} {expect' : Expect} (h : u.Spells ts)
    (hopens : Opens outer expect inner) (hplace : Progress.place inner u = .going outer' expect')
    (rest : List Token) : advance? outer expect (ts ++ rest) = advance? outer' expect' rest := by
  have hvalue := @advance?_of_place [] inner .value u ts outer' expect' h.1 h.2 hplace rest
  rcases ts with - | ⟨token, ts⟩
  · exact absurd h.2 (not_isClosed_of_readTree_nil h.1)
  rw [List.cons_append, advance?] at hvalue ⊢
  rw [hopens.step_eq (by simpa using h.ne_closeArray)]
  exact hvalue

/-- After some elements of an array and a comma behind each the next one may begin. -/
theorem exists_advance?_items {items done : List Tree} {mss : List (List Token)}
    (h : List.Forall₂ Tree.Spells items mss)
    (hopened : expect.opened? outer = some (.items done :: outer)) (rest : List Token) :
    ∃ expect', advance? outer expect (mss.flatMap (· ++ [.comma]) ++ rest) =
        advance? outer expect' rest ∧
      expect'.opened? outer = some (.items (items.reverse ++ done) :: outer) := by
  induction h generalizing expect done with
  | nil => exact ⟨expect, rfl, hopened⟩
  | @cons u ms items mss hu hitems ih =>
    obtain ⟨expect', hadvance, hopened'⟩ := @ih (.nextItem (u :: done)) (u :: done) rfl
    refine ⟨expect', ?_, by simpa using hopened'⟩
    rw [List.flatMap_cons, List.append_assoc, List.append_assoc,
      hu.advance?_of_opens (opened?_eq_some hopened) rfl]
    exact hadvance

/-- After some members of an object and a comma behind each, and a key and a colon, the value of the
next one may begin. -/
theorem advance?_members {members done : List (Key × Tree)} {mss : List (List Token)}
    (h : List.Forall₂ MemberSpells members mss) (key : Key)
    (hexpect : ∀ key, Progress.step outer expect (.text key) = .going outer (.colon done key))
    (rest : List Token) :
    advance? outer expect (mss.flatMap (· ++ [.comma]) ++ .text key :: .colon :: rest) =
      advance? (.member (members.reverse ++ done) key :: outer) .value rest := by
  induction h generalizing expect done with
  | nil =>
    rw [List.flatMap_nil, List.nil_append, advance?, hexpect]
    rfl
  | @cons m ms members mss hm hmembers ih =>
    obtain ⟨vs, hvs, rfl⟩ := hm
    have hnext := @ih (.nextKey (m :: done)) (m :: done) fun _ ↦ rfl
    rw [List.flatMap_cons]
    simp only [List.cons_append, List.append_assoc, List.nil_append] at hnext ⊢
    rw [advance?, hexpect]
    change advance? (.member done m.1 :: outer) .value _ = _
    rw [hvs.advance?_of_opens (.value _) rfl]
    change advance? outer (.nextKey (m :: done)) _ = _
    rw [hnext]
    simp

end Tokens

/-! ### Parts of the tokens -/

/-- The tokens that are characters of their own. -/
def Token.IsMark : Token → Prop
  | openArray | closeArray | openObject | closeObject | comma | colon => True
  | _ => False

/-- The marks behind a value. -/
def Token.Ends : Token → Prop
  | closeArray | closeObject | comma => True
  | _ => False

/-- Whether tokens bring a reader from where a value may begin to where the part of it at a position
may begin, in a frame of its own. -/
def LeadsInto (ts : List Token) (n : Nat) : Prop :=
  ∀ {outer inner : List Frame} {expect : Expect}, expect.opened? outer = some inner →
    ∀ rest, ∃ outer' expect' frame, advance? outer expect (ts ++ rest) =
      advance? outer' expect' rest ∧ expect'.opened? outer' = some (frame :: inner) ∧
        frame.index = n

/-- Whether tokens bring a reader from where a value may begin to where the one at some positions
inside it may begin. -/
def LeadsTo (ts : List Token) (path : List Nat) : Prop :=
  ∀ {outer inner : List Frame} {expect : Expect}, expect.opened? outer = some inner →
    ∃ outer' expect' inner', advance? outer expect ts = some (outer', expect') ∧
      expect'.opened? outer' = some inner' ∧ framePath inner' = framePath inner ++ path

/-- Whether a value has tokens of its own among others: those before them lead to it and end with a
mark, if there are any, and those behind them begin with one. -/
def HasTokens (y : Tree) (path : List Nat) (ts : List Token) : Prop :=
  ∃ before own after, ts = before ++ own ++ after ∧ y.Spells own ∧ LeadsTo before path ∧
    (∀ token ∈ before.getLast?, token.IsMark) ∧ ∀ token ∈ after.head?, token.Ends

section Parts

variable {path : List Nat} {t y : Tree} {token : Token} {ts opening closing : List Token} {n : Nat}
  {mss : List (List Token)}

theorem Tree.Spells.hasTokens (h : y.Spells ts) : HasTokens y [] ts := by
  refine ⟨[], ts, [], by simp, h, ?_, by simp, by simp⟩
  intro outer inner expect hopened
  exact ⟨outer, expect, inner, rfl, hopened, (List.append_nil _).symm⟩

theorem LeadsInto.leadsTo (hinto : LeadsInto opening n) (h : LeadsTo ts path) :
    LeadsTo (opening ++ ts) (n :: path) := by
  intro outer inner expect hopened
  obtain ⟨outer₁, expect₁, frame, hadvance, hopened₁, rfl⟩ := hinto hopened ts
  obtain ⟨outer', expect', inner', hadvance', hopened', hpath⟩ := h hopened₁
  refine ⟨outer', expect', inner', hadvance.trans hadvance', hopened', ?_⟩
  rw [hpath, framePath_cons, List.append_assoc, List.singleton_append]

/-- A value that has tokens among those of a part has them among those of the whole. -/
theorem HasTokens.inside (h : HasTokens y path ts) (hinto : LeadsInto opening n)
    (hmark : ∀ token ∈ opening.getLast?, token.IsMark)
    (hends : ∀ token ∈ closing.head?, token.Ends) :
    HasTokens y (n :: path) (opening ++ ts ++ closing) := by
  obtain ⟨before, own, after, rfl, hown, hlead, hbefore, hafter⟩ := h
  refine ⟨opening ++ before, own, after ++ closing, by simp, hown, hinto.leadsTo hlead, ?_, ?_⟩
  · intro token htoken
    rw [List.getLast?_append, Option.mem_def, Option.or_eq_some_iff] at htoken
    exact htoken.elim (hbefore token) fun h ↦ hmark token h.2
  · intro token htoken
    rw [List.head?_append, Option.mem_def, Option.or_eq_some_iff] at htoken
    exact htoken.elim (hafter token) fun h ↦ hends token h.2

theorem isMark_of_getLast? (htoken : token.IsMark) :
    ∀ last ∈ (token :: mss.flatMap (· ++ [.comma])).getLast?, last.IsMark := by
  rcases List.eq_nil_or_concat mss with rfl | ⟨front, ms, rfl⟩
  · simpa using htoken
  · simp [List.getLast?_cons, Token.IsMark]

theorem ends_of_head? (htoken : token.Ends) :
    ∀ first ∈ (mss.flatMap (Token.comma :: ·) ++ [token]).head?, first.Ends := by
  cases mss with
  | nil => simpa using htoken
  | cons ms mss => simp [Token.Ends]

theorem joined_append_cons (front rest : List (List Token)) (ms : List Token) :
    joined (front ++ ms :: rest) =
      front.flatMap (· ++ [.comma]) ++ ms ++ rest.flatMap (Token.comma :: ·) := by
  -- a comma before each is a comma behind each, but for the first and the last
  have hcommas (mss : List (List Token)) : mss.flatMap (Token.comma :: ·) ++ [.comma] =
      .comma :: mss.flatMap (· ++ [.comma]) := by
    induction mss with
    | nil => rfl
    | cons next mss ih => simp [ih]
  cases front with
  | nil => rfl
  | cons first front =>
    have hfront := congrArg (first ++ · ++ ms ++ rest.flatMap (Token.comma :: ·)) (hcommas front)
    simpa [joined] using hfront

theorem leadsInto_items {items : List Tree} (h : List.Forall₂ Tree.Spells items mss) :
    LeadsInto (.openArray :: mss.flatMap (· ++ [.comma])) items.length := by
  intro outer inner expect hopened rest
  obtain ⟨expect', hadvance, hopened'⟩ :=
    exists_advance?_items h (rfl : Expect.firstItem.opened? inner = _) rest
  refine ⟨inner, expect', _, ?_, hopened', by simp [Frame.index]⟩
  rw [List.cons_append, advance?, (opened?_eq_some hopened).step_eq (by simp)]
  exact hadvance

theorem leadsInto_members {members : List (Key × Tree)} (h : List.Forall₂ MemberSpells members mss)
    (key : Key) : LeadsInto (.openObject :: mss.flatMap (· ++ [.comma]) ++ [.text key, .colon])
      members.length := by
  intro outer inner expect hopened rest
  have hadvance := @advance?_members inner .firstKey members [] mss h key (fun _ ↦ rfl) rest
  refine ⟨_, .value, .member (members.reverse ++ []) key, ?_, rfl, by simp [Frame.index]⟩
  rw [List.cons_append, List.cons_append, advance?, (opened?_eq_some hopened).step_eq (by simp)]
  simpa [Progress.begin] using hadvance

/-- The value at some positions of a tree has tokens of its own among those of the tree. -/
theorem hasTokens_of_at (hat : y.At path t) (hts : t.Spells ts) : HasTokens y path ts := by
  induction hat generalizing ts with
  | here => exact hts.hasTokens
  | item ht _ ih =>
    obtain ⟨mss, hitems, rfl⟩ := hts.exists_items
    obtain ⟨front, rest, rfl, rfl⟩ := exists_eq_append_cons ht
    obtain ⟨before, ms, behind, rfl, hbefore, ht, -⟩ := exists_forall₂_append_cons hitems
    have hinside := (ih ht).inside (leadsInto_items hbefore) (isMark_of_getLast? trivial)
      (@ends_of_head? .closeArray behind trivial)
    rw [joined_append_cons]
    simpa using hinside
  | @member n path members key t stop ht _ ih =>
    obtain ⟨mss, hmembers, rfl⟩ := hts.exists_members
    obtain ⟨front, rest, rfl, rfl⟩ := exists_eq_append_cons ht
    obtain ⟨before, ms, behind, rfl, hbefore, ⟨vs, ht, rfl⟩, -⟩ :=
      exists_forall₂_append_cons hmembers
    have hmark : ∀ token ∈ (Token.openObject :: before.flatMap (· ++ [Token.comma]) ++
        [Token.text key, Token.colon]).getLast?, token.IsMark := by
      intro token htoken
      rw [List.getLast?_append] at htoken
      obtain rfl : Token.colon = token := by simpa using htoken
      trivial
    have hinside := (ih ht).inside (leadsInto_members hbefore key) hmark
      (@ends_of_head? .closeObject behind trivial)
    rw [joined_append_cons]
    simpa using hinside

end Parts

/-! ### Parts of the characters -/

/-- Whether a machine in a word has characters of it before it, and the word is no mark. -/
def Mode.IsProper : Mode → Prop
  | .word rest token => rest ≠ [] ∧ ¬ token.IsMark
  | _ => True

section Characters

variable {mode : Mode} {c : Char} {cs : List Char} {token mark : Token} {ts rest : List Token}

theorem Mode.isProper_start (c : Char) : (start c).2.IsProper := by
  unfold start
  split_ifs
  · trivial
  · split <;> first | trivial | exact ⟨List.cons_ne_nil _ _, id⟩ | split_ifs <;> trivial

theorem Mode.isProper_step (h : mode.IsProper) (c : Char) : (mode.step c).2.IsProper := by
  cases mode with
  | between => exact isProper_start c
  | failed => trivial
  | word rest token =>
    rcases rest with - | ⟨expected, rest⟩
    · exact absurd rfl h.1
    · rw [step]
      split_ifs with hne hrest
      · trivial
      · trivial
      · exact ⟨hrest, h.2⟩
  | text scan =>
    rw [step]
    split <;> trivial
  | number scan =>
    rw [step]
    split
    · trivial
    · trivial
    · exact isProper_start c

theorem Mode.not_isMark_of_finish (h : token ∈ mode.finish) : ¬ token.IsMark := by
  cases mode with
  | between | failed => cases h
  | word | text => exact List.mem_singleton.mp h ▸ id
  | number scan =>
    rw [finish] at h
    split_ifs at h <;> exact List.mem_singleton.mp h ▸ id

/-- A character is a mark, or it completes no token that is one. -/
theorem Mode.start_cases (c : Char) : (∃ mark, mark.IsMark ∧ start c = ([mark], .between)) ∨
    ∀ token ∈ (start c).1, ¬ token.IsMark := by
  unfold start
  split_ifs
  · exact .inr (by simp)
  · split
    · exact .inl ⟨.openArray, trivial, rfl⟩
    · exact .inl ⟨.closeArray, trivial, rfl⟩
    · exact .inl ⟨.openObject, trivial, rfl⟩
    · exact .inl ⟨.closeObject, trivial, rfl⟩
    · exact .inl ⟨.comma, trivial, rfl⟩
    · exact .inl ⟨.colon, trivial, rfl⟩
    all_goals right
    case h_13 =>
      split_ifs
      · simp
      · exact List.forall_mem_singleton.mpr id
    all_goals simp

theorem TextScan.exists_text_of_step {scan : TextScan} (h : scan.step c = .inr token) :
    ∃ value, token = .text value := by
  have hclose (scan : TextScan) : ∃ value, scan.close = .text value := by
    unfold close
    dsimp only
    split <;> exact ⟨_, rfl⟩
  unfold step at h
  dsimp only at h
  split at h
  · split_ifs at h
    · exact Sum.inr.inj h ▸ hclose scan
    all_goals exact ⟨_, (Sum.inr.inj h).symm⟩
  · split_ifs at h
    all_goals
      split at h
      · cases h
      · exact ⟨_, (Sum.inr.inj h).symm⟩
  · split_ifs at h
    split at h
    · cases h
    · exact ⟨_, (Sum.inr.inj h).symm⟩

theorem NumberScan.step_inr {scan : NumberScan} (h : scan.step c = .inr token) :
    (∃ place, token = .cut place) ∨ token = scan.close ∧ scan.isWhole = true := by
  unfold step at h
  dsimp only at h
  (repeat' split at h) <;> cases h
  all_goals first
    | exact .inl ⟨_, rfl⟩
    | refine .inr ⟨rfl, ?_⟩; simp [isWhole, *]

/-- A character is a mark that follows a token, or it completes no mark. -/
theorem Mode.step_cases (h : mode.IsProper) (c : Char) :
    (∃ mark, mark.IsMark ∧ start c = ([mark], .between) ∧
      mode.step c = (mode.finish ++ [mark], .between)) ∨
    ∀ token ∈ (mode.step c).1, ¬ token.IsMark := by
  cases mode with
  | between =>
    rcases start_cases c with ⟨mark, hmark, hstart⟩ | hnone
    · exact .inl ⟨mark, hmark, hstart, hstart⟩
    · exact .inr hnone
  | failed => exact .inr (by simp [step])
  | word rest token =>
    right
    rcases rest with - | ⟨expected, rest⟩
    · exact absurd rfl h.1
    · rw [step]
      split_ifs
      · exact List.forall_mem_singleton.mpr id
      · exact List.forall_mem_singleton.mpr h.2
      · simp
  | text scan =>
    right
    rw [step]
    split
    · simp
    · exact List.forall_mem_singleton.mpr id
    · rename_i hscan
      obtain ⟨value, rfl⟩ := TextScan.exists_text_of_step hscan
      exact List.forall_mem_singleton.mpr id
  | number scan =>
    rw [step]
    split
    · exact .inr (by simp)
    · exact .inr (List.forall_mem_singleton.mpr id)
    · rename_i token hcut hscan
      have hnoCut : ¬ ∃ place, token = .cut place := by
        rintro ⟨place, rfl⟩
        exact hcut place rfl
      obtain ⟨rfl, hwhole⟩ := (NumberScan.step_inr hscan).resolve_left hnoCut
      rcases start_cases c with ⟨mark, hmark, hstart⟩ | hnone
      · refine .inl ⟨mark, hmark, hstart, ?_⟩
        rw [hstart, finish, if_pos hwhole]
        rfl
      · exact .inr (List.forall_mem_cons.mpr ⟨id, hnone⟩)

/-- A mark among the tokens is a character of its own: the tokens before it are those of the
characters before it, and those behind it come from the characters behind it. -/
theorem exists_chars_of_mark (hmode : mode.IsProper) (hmark : mark.IsMark)
    (h : tokensFrom mode cs = ts ++ mark :: rest) : ∃ front c back, cs = front ++ c :: back ∧
      tokensFrom mode front = ts ∧ mode.run (front ++ [c]) = (ts ++ [mark], .between) ∧
      Mode.start c = ([mark], .between) ∧ tokensFrom .between back = rest := by
  induction cs generalizing mode ts with
  | nil =>
    have hmem : mark ∈ mode.finish := by
      rw [← tokensFrom, h]
      simp
    exact absurd hmark (Mode.not_isMark_of_finish hmem)
  | cons c cs ih =>
    rw [tokensFrom_cons] at h
    rcases Mode.step_cases hmode c with ⟨found, hfound, hstart, hstep⟩ | hnone
    · rw [hstep, List.append_assoc] at h
      obtain ⟨more, rfl, hmore⟩ := exists_append_of_notMem h fun hmem ↦
        Mode.not_isMark_of_finish hmem hmark
      rcases more with - | ⟨first, more⟩
      · obtain ⟨rfl, hrest⟩ := List.cons.inj hmore
        exact ⟨[], c, cs, rfl, by simp [tokensFrom], by simp [Mode.run, hstep], hstart, hrest⟩
      · obtain rfl : found = first := (List.cons.inj hmore).1
        have htail : tokensFrom .between cs = more ++ mark :: rest := (List.cons.inj hmore).2
        obtain ⟨front, c', back, rfl, hfront, hrun, hstart', hback⟩ :=
          @ih .between more trivial htail
        exact ⟨c :: front, c', back, rfl, by rw [tokensFrom_cons, hstep, hfront]; simp,
          by rw [List.cons_append, Mode.run, hstep, hrun]; simp, hstart', hback⟩
    · obtain ⟨more, rfl, hmore⟩ := exists_append_of_notMem h fun hmem ↦ hnone mark hmem hmark
      obtain ⟨front, c', back, rfl, hfront, hrun, hstart, hback⟩ :=
        ih (Mode.isProper_step hmode c) hmore
      exact ⟨c :: front, c', back, rfl, by rw [tokensFrom_cons, hfront],
        by rw [List.cons_append, Mode.run, hrun]; simp, hstart, hback⟩

theorem Token.Ends.isMark (h : mark.Ends) : mark.IsMark := by
  cases mark <;> trivial

theorem delimits_of_start (hmark : mark.Ends) (hstart : Mode.start c = ([mark], .between)) :
    Delimits (c :: cs) := by
  have hc : c = ',' ∨ c = ']' ∨ c = '\x7d' := by
    unfold Mode.start at hstart
    split_ifs at hstart
    · cases hstart
    · split at hstart <;> (try split_ifs at hstart) <;> cases hstart
      all_goals first
        | exact False.elim hmark
        | simp
  intro first hfirst
  exact .inr (Option.some.inj hfirst ▸ hc)

/-- Tokens that end with a mark are those of the first characters, behind which none has begun. -/
theorem exists_chars_before {before : List Token} (h : tokensFrom .between cs = before ++ rest)
    (hmark : ∀ token ∈ before.getLast?, token.IsMark) : ∃ front back, cs = front ++ back ∧
      Mode.run .between front = (before, .between) ∧ tokensFrom .between back = rest := by
  rcases List.eq_nil_or_concat before with rfl | ⟨ts, mark, rfl⟩
  · exact ⟨[], cs, rfl, rfl, h⟩
  · have hlast : mark ∈ (ts.concat mark).getLast? := by simp
    rw [List.concat_eq_append] at h ⊢
    rw [List.append_assoc] at h
    obtain ⟨front, c, back, rfl, -, hrun, -, hback⟩ :=
      @exists_chars_of_mark .between _ mark _ _ trivial (hmark mark hlast) h
    exact ⟨front ++ [c], back, by simp, hrun, hback⟩

/-- Tokens that an end follows are those of the first characters, up to a delimiter. -/
theorem exists_chars_until {own after : List Token} (h : tokensFrom .between cs = own ++ after)
    (hends : ∀ token ∈ after.head?, token.Ends) : ∃ front back, cs = front ++ back ∧
      tokensFrom .between front = own ∧ Delimits back := by
  rcases after with - | ⟨mark, after⟩
  · exact ⟨cs, [], (List.append_nil cs).symm, by rw [h, List.append_nil], by simp [Delimits]⟩
  · have hmark : mark.Ends := hends mark rfl
    obtain ⟨front, c, back, rfl, hfront, -, hstart, -⟩ :=
      @exists_chars_of_mark .between _ mark _ _ trivial hmark.isMark h
    exact ⟨front, c :: back, rfl, hfront, delimits_of_start hmark hstart⟩

end Characters

/-! ### Occurrences -/

/-- Each value of a whole text stands somewhere in it. -/
theorem exists_occurrence {text : String} {path : List Nat} {y : Tree} (hwhole : IsWhole text)
    (hat : y.At path (Tree.ofText text).1) :
    ∃ place : Occurrence text path, (Tree.ofText place.value).1 = y := by
  obtain ⟨before, own, after, htokens, hown, hlead, hmark, hends⟩ :=
    hasTokens_of_at hat ⟨hwhole.readTree_eq, hwhole.2⟩
  rw [tokens, List.append_assoc] at htokens
  obtain ⟨front, rest, hchars, hrun, hrest⟩ := exists_chars_before htokens hmark
  obtain ⟨value, behind, rfl, hvalue, hdelimits⟩ := exists_chars_until hrest hends
  obtain ⟨outer, expect, inner, hadvance, hopened, hpath⟩ := @hlead [] [] .value rfl
  have htree : Tree.ofText (String.ofList value) = (y, false) := by
    rw [Tree.ofText, String.toList_ofList, tokens, hvalue, hown.1]
    rfl
  refine ⟨⟨String.ofList front, String.ofList value, String.ofList behind, ?_, ?_, ?_, ?_⟩, ?_⟩
  · rw [← String.toList_inj]
    simp [hchars]
  · have hpath' : framePath inner = path := hpath
    rw [pathAfter?, String.toList_ofList, hrun]
    simp [hadvance, hopened, hpath']
  · rw [IsWhole, htree]
    exact ⟨rfl, hown.2⟩
  · rwa [String.toList_ofList]
  · rw [htree]

end DiagramMigrations.Json
