import DiagramMigrations.Proofs.Json.Places
import DiagramMigrations.Proofs.Json.Tree

/-!
Texts in which the text of a value is replaced by that of another. A value begins where the reader
stands after the characters before it, and ends before a delimiter; so the other value is read in
its place, and the tree of the text changes there and nowhere else.
-/

set_option autoImplicit false
set_option relaxedAutoImplicit false

namespace DiagramMigrations.Json

/-! ### Characters -/

/-- The tokens that characters complete, and where the machine stands after them. -/
def Mode.run (mode : Mode) : List Char → List Token × Mode
  | [] => ([], mode)
  | c :: rest =>
    ((mode.step c).1 ++ ((mode.step c).2.run rest).1, ((mode.step c).2.run rest).2)

/-- Tokens at which a text goes wrong for everyone. -/
inductive Token.Breaks : Token → Prop
  | cut (place : Break) : Breaks (.cut place)
  | stray : Breaks .stray
  | text (read skip : Fault) : Breaks (.text (.error ⟨read, some skip⟩))

/-- Whether a number, word or text ends before what follows, if anything does. -/
def Delimits (cs : List Char) : Prop :=
  ∀ c ∈ cs.head?, Mode.isSpace c = true ∨ c = ',' ∨ c = ']' ∨ c = '\x7d'

section Characters

variable {mode : Mode} {c : Char} {cs : List Char}

theorem tokensFrom_append (mode : Mode) (cs rest : List Char) :
    tokensFrom mode (cs ++ rest) = (mode.run cs).1 ++ tokensFrom (mode.run cs).2 rest := by
  induction cs generalizing mode with
  | nil => rfl
  | cons c cs ih =>
    rw [List.cons_append, tokensFrom_cons, ih, Mode.run, List.append_assoc]

theorem tokensFrom_eq (mode : Mode) (cs : List Char) :
    tokensFrom mode cs = (mode.run cs).1 ++ (mode.run cs).2.finish := by
  have happend := tokensFrom_append mode cs []
  rwa [List.append_nil] at happend

theorem Mode.start_failed (h : (start c).2 = .failed) : (start c).1 = [.stray] := by
  unfold start at h ⊢
  split_ifs at h ⊢ with hspace
  split at h <;> first | cases h | skip
  split_ifs at h ⊢
  rfl

/-- A step at which the machine fails ends with a token at which the text goes wrong. -/
theorem Mode.exists_breaks_of_step (hmode : mode ≠ .failed) (h : (mode.step c).2 = .failed) :
    ∃ front last, (mode.step c).1 = front ++ [last] ∧ last.Breaks := by
  have hstart (h : (start c).2 = .failed) : ∃ front last, (start c).1 = front ++ [last] ∧
      last.Breaks := ⟨[], .stray, start_failed h, .stray⟩
  cases mode with
  | failed => exact absurd rfl hmode
  | between => exact hstart h
  | word rest token =>
    cases rest with
    | nil => exact hstart h
    | cons expected rest =>
      rw [step] at h ⊢
      split_ifs at h ⊢
      exact ⟨[], _, rfl, .cut _⟩
  | text scan =>
    rw [step] at h ⊢
    split at h
    · cases h
    · rename_i read skip hscan
      exact ⟨[], _, rfl, .text read skip⟩
    · cases h
  | number scan =>
    rw [step] at h ⊢
    split at h
    · cases h
    · exact ⟨[], _, rfl, .cut _⟩
    · obtain ⟨front, last, hlast, hbreaks⟩ := hstart h
      exact ⟨_ :: front, last, congrArg (List.cons _) hlast, hbreaks⟩

theorem Mode.run_of_failed (cs : List Char) : Mode.run .failed cs = ([], .failed) := by
  induction cs with
  | nil => rfl
  | cons c cs ih =>
    rw [run]
    change ([] ++ (Mode.run .failed cs).1, (Mode.run .failed cs).2) = _
    rw [ih]
    rfl

/-- A machine that has failed has ended with a token at which the text goes wrong. -/
theorem Mode.exists_breaks_of_run (hmode : mode ≠ .failed) (h : (mode.run cs).2 = .failed) :
    ∃ front last, (mode.run cs).1 = front ++ [last] ∧ last.Breaks := by
  induction cs generalizing mode with
  | nil => exact absurd h hmode
  | cons c cs ih =>
    rw [run] at h ⊢
    by_cases hnext : (mode.step c).2 = .failed
    · obtain ⟨front, last, hlast, hbreaks⟩ := exists_breaks_of_step hmode hnext
      rw [hnext, run_of_failed, List.append_nil]
      exact ⟨front, last, hlast, hbreaks⟩
    · obtain ⟨front, last, hlast, hbreaks⟩ := ih hnext h
      refine ⟨(mode.step c).1 ++ front, last, ?_, hbreaks⟩
      rw [hlast, List.append_assoc]

/-- Whether no token is cut short where the machine stands. -/
def Mode.IsDone : Mode → Prop
  | .between => True
  | .number scan => scan.isWhole = true
  | _ => False

/-- The tokens of characters end with one at which the text goes wrong, unless the machine is done
with its last token. -/
theorem exists_breaks_of_not_isDone (h : ¬ (Mode.run .between cs).2.IsDone) :
    ∃ front last, tokens cs = front ++ [last] ∧ last.Breaks := by
  rw [tokens, tokensFrom_eq]
  cases hmode : (Mode.run .between cs).2 with
  | between =>
    rw [hmode] at h
    exact absurd trivial h
  | failed =>
    obtain ⟨front, last, hlast, hbreaks⟩ := Mode.exists_breaks_of_run (by simp) hmode
    exact ⟨front, last, by rw [hlast]; exact List.append_nil _, hbreaks⟩
  | word rest token => exact ⟨_, _, rfl, .cut _⟩
  | text scan => exact ⟨_, _, rfl, .text _ _⟩
  | number scan =>
    have hwhole : scan.isWhole = false := by
      rw [hmode] at h
      simpa [Mode.IsDone] using h
    exact ⟨_, _, by rw [Mode.finish, hwhole]; rfl, .cut _⟩

/-- A number that may end does so before a delimiter. -/
theorem NumberScan.step_of_delimits {scan : NumberScan} (hwhole : scan.isWhole = true)
    (h : Delimits (c :: cs)) : scan.step c = .inr scan.close := by
  have hc : c = ' ' ∨ c = '\n' ∨ c = '\t' ∨ c = '\r' ∨ c = ',' ∨ c = ']' ∨ c = '\x7d' := by
    simpa [Delimits, Mode.isSpace, or_assoc] using h
  obtain ⟨phase, spelling⟩ := scan
  rcases hc with rfl | rfl | rfl | rfl | rfl | rfl | rfl <;> cases phase <;>
    first | rfl | cases hwhole

/-- Where no token is cut short, the next one is found as if the machine stood between two. -/
theorem tokensFrom_of_isDone (hmode : mode.IsDone) (h : Delimits cs) :
    tokensFrom mode cs = mode.finish ++ tokensFrom .between cs := by
  cases mode with
  | between => rfl
  | word | text | failed => cases hmode
  | number scan =>
    have hfinish : (Mode.number scan).finish = [scan.close] := if_pos hmode
    cases cs with
    | nil => exact (List.append_nil _).symm
    | cons c cs =>
      have hstep : (Mode.number scan).step c =
          (scan.close :: (Mode.start c).1, (Mode.start c).2) := by
        rw [Mode.step, NumberScan.step_of_delimits hmode h]
        rfl
      rw [hfinish, tokensFrom_cons, hstep]
      rfl

end Characters

/-! ### Tokens -/

/-- Whether a tree is whole at its end: an array or object has its bracket, and a scalar does not
break the text. -/
def Tree.IsClosed : Tree → Prop
  | .array _ stop | .object _ stop => stop = .closed
  | .text (.error ⟨_, some _⟩) | .broken _ => False
  | _ => True

/-- What a step comes to when there are more frames around. -/
def Progress.over (inner : List Frame) : Progress → Progress
  | going outer expect => going (outer ++ inner) expect
  | complete tree => place inner tree
  | broken tree => broken (breakOff inner tree)

section Tokens

variable {outer inner : List Frame} {expect : Expect} {token : Token} {tree : Tree}
  {ts rest : List Token}

theorem breakOff_append (outer inner : List Frame) (tree : Tree) :
    breakOff (outer ++ inner) tree = breakOff inner (breakOff outer tree) := by
  induction outer generalizing tree with
  | nil => rfl
  | cons frame outer ih => cases frame <;> exact ih _

theorem Progress.place_append (outer inner : List Frame) (tree : Tree) :
    place (outer ++ inner) tree = (place outer tree).over inner := by
  rcases outer with - | ⟨_ | _, outer⟩ <;> rfl

theorem Progress.fail_append (outer inner : List Frame) (tree : Tree) :
    fail (outer ++ inner) tree = (fail outer tree).over inner :=
  congrArg broken (breakOff_append outer inner tree)

theorem Progress.begin_append (outer inner : List Frame) (token : Token) :
    begin (outer ++ inner) token = (begin outer token).over inner := by
  unfold begin
  split <;> first | rfl | exact place_append outer inner _ | exact fail_append outer inner _

/-- More frames around do not change what a step does. -/
theorem Progress.step_append (outer inner : List Frame) (expect : Expect) (token : Token) :
    step (outer ++ inner) expect token = (step outer expect token).over inner := by
  unfold step
  split <;> first | rfl | exact place_append outer inner _ | exact fail_append outer inner _ |
    exact begin_append outer inner _ | exact begin_append (_ :: outer) inner _

theorem not_isClosed_breakOff (htree : ¬ tree.IsClosed) (outer : List Frame) :
    ¬ (breakOff outer tree).IsClosed := by
  induction outer generalizing tree with
  | nil => exact htree
  | cons frame outer ih => cases frame <;> exact ih (by simp [Tree.IsClosed])

theorem Progress.not_isClosed_of_fail {failed : Tree} (h : fail outer failed = .broken tree)
    (hfailed : ¬ failed.IsClosed) : ¬ tree.IsClosed := by
  obtain rfl := Progress.broken.inj h
  exact not_isClosed_breakOff hfailed outer

theorem Progress.place_ne_broken {placed : Tree} : place outer placed ≠ .broken tree := by
  rcases outer with - | ⟨_ | _, outer⟩ <;> simp [place]

theorem Progress.not_isClosed_of_begin (h : begin outer token = .broken tree) :
    ¬ tree.IsClosed := by
  unfold begin at h
  split at h
  case h_6 place hplace =>
    refine not_isClosed_of_fail h ?_
    obtain ⟨read, - | skip⟩ := place
    · exact absurd rfl (hplace read)
    · exact fun hclosed ↦ hclosed
  all_goals first
    | exact absurd h place_ne_broken
    | exact not_isClosed_of_fail h (fun hclosed ↦ hclosed)
    | cases h

/-- A value that breaks off is not whole at its end. -/
theorem Progress.not_isClosed_of_step (h : step outer expect token = .broken tree) :
    ¬ tree.IsClosed := by
  unfold step at h
  split at h
  all_goals first
    | exact not_isClosed_of_begin h
    | exact absurd h place_ne_broken
    | exact not_isClosed_of_fail h (by simp [Tree.IsClosed])
    | cases h

theorem Progress.not_isClosed_finish (outer : List Frame) (expect : Expect) :
    ¬ (finish outer expect).IsClosed := by
  cases expect <;> exact not_isClosed_breakOff (by simp [Tree.IsClosed]) outer

theorem not_isClosed_of_readTree_nil (h : readTree outer expect [] = (tree, rest)) :
    ¬ tree.IsClosed :=
  (Prod.mk.inj h).1 ▸ Progress.not_isClosed_finish outer expect

theorem not_isClosed_of_readTree_cons
    (hstep : ∃ found, Progress.step outer expect token = .broken found)
    (h : readTree outer expect (token :: ts) = (tree, rest)) : ¬ tree.IsClosed := by
  obtain ⟨found, hstep⟩ := hstep
  rw [readTree_cons, hstep] at h
  exact (Prod.mk.inj h).1 ▸ Progress.not_isClosed_of_step hstep

theorem Token.Breaks.step_ne_complete (h : token.Breaks) :
    Progress.step outer expect token ≠ .complete tree := by
  have hfail (outer : List Frame) (failed : Tree) :
      Progress.fail outer failed ≠ .complete tree := by simp [Progress.fail]
  cases h <;> cases expect <;> first | exact hfail _ _ | simp [Progress.step]

/-- Where the text goes wrong, what is read before is not whole. -/
theorem not_isClosed_of_breaks {last : Token} (hlast : last.Breaks)
    (h : readTree outer expect (ts ++ [last]) = (tree, [])) : ¬ tree.IsClosed := by
  induction ts generalizing outer expect with
  | nil =>
    rw [List.nil_append] at h
    cases hstep : Progress.step outer expect last with
    | going outer' expect' =>
      -- only a key may break and the reading go on, and then the text ends
      rw [readTree_cons, hstep] at h
      exact not_isClosed_of_readTree_nil h
    | broken found => exact not_isClosed_of_readTree_cons ⟨found, hstep⟩ h
    | complete found => exact absurd hstep (hlast.step_ne_complete)
  | cons token ts ih =>
    rw [List.cons_append, readTree_cons] at h
    cases hstep : Progress.step outer expect token with
    | going outer' expect' => exact ih (by rwa [hstep] at h)
    | complete found =>
      rw [hstep] at h
      exact absurd (Prod.mk.inj h).2 (by simp)
    | broken found =>
      rw [hstep] at h
      exact absurd (Prod.mk.inj h).2 (by simp)

/-- The tokens of a value are read as its tree, wherever the value may begin and whatever follows.
-/
theorem readTree_append (h : readTree outer expect ts = (tree, [])) (hclosed : tree.IsClosed)
    (inner : List Frame) (rest : List Token) :
    readTree (outer ++ inner) expect (ts ++ rest) = resume (Progress.place inner tree) rest := by
  induction ts generalizing outer expect with
  | nil => exact absurd hclosed (not_isClosed_of_readTree_nil h)
  | cons token ts ih =>
    rw [List.cons_append, readTree_cons, Progress.step_append]
    cases hstep : Progress.step outer expect token with
    | going outer' expect' =>
      rw [readTree_cons, hstep] at h
      exact ih h
    | complete found =>
      rw [readTree_cons, hstep] at h
      obtain ⟨rfl, rfl⟩ := Prod.mk.inj h
      rfl
    | broken found => exact absurd hclosed (not_isClosed_of_readTree_cons ⟨found, hstep⟩ h)

/-- The tokens of a value are read as its tree wherever a value may begin. -/
theorem readTree_of_opens (h : readTree [] .value ts = (tree, [])) (hclosed : tree.IsClosed)
    (hopens : Opens outer expect inner) (rest : List Token) :
    readTree outer expect (ts ++ rest) = resume (Progress.place inner tree) rest := by
  have hvalue := readTree_append h hclosed inner rest
  cases ts with
  | nil => exact absurd hclosed (not_isClosed_of_readTree_nil h)
  | cons token ts =>
    have htoken : token ≠ .closeArray := by
      rintro rfl
      exact not_isClosed_of_readTree_cons ⟨_, rfl⟩ h hclosed
    rw [List.cons_append, readTree_cons] at hvalue ⊢
    rw [hopens.step_eq htoken]
    exact hvalue

end Tokens

/-! ### Places -/

/-- The position of the value that is read in an array or object. -/
def Frame.index : Frame → Nat
  | items done => done.length
  | member done _ => done.length

/-- The positions that lead to the value that is read, the outermost first. -/
def framePath (outer : List Frame) : List Nat :=
  (outer.map Frame.index).reverse

/-- The frames around a value that may begin. -/
def Expect.opened? (outer : List Frame) : Expect → Option (List Frame)
  | value => some outer
  | firstItem => some (.items [] :: outer)
  | nextItem done => some (.items done :: outer)
  | _ => none

/-- Where the reader stands after tokens, if the value goes on. -/
def advance? (outer : List Frame) (expect : Expect) : List Token → Option (List Frame × Expect)
  | [] => some (outer, expect)
  | token :: rest =>
    match Progress.step outer expect token with
    | .going outer expect => advance? outer expect rest
    | _ => none

/-- The position of the value that may begin after a text. -/
def pathAfter? (text : String) : Option (List Nat) :=
  match Mode.run .between text.toList with
  | (ts, .between) => do
    let (outer, expect) ← advance? [] .value ts
    return framePath (← expect.opened? outer)
  | _ => none

section Places

variable {y t u : Tree} {path : List Nat} {outer inner : List Frame} {expect : Expect}
  {ts rest : List Token} {xs ys : List Tree} {ms ns : List (Key × Tree)}

theorem framePath_cons (frame : Frame) (outer : List Frame) :
    framePath (frame :: outer) = framePath outer ++ [frame.index] := by
  rw [framePath, List.map_cons, List.reverse_cons]
  rfl

theorem opened?_eq_some (h : expect.opened? outer = some inner) : Opens outer expect inner := by
  cases expect with
  | value =>
    obtain rfl := Option.some.inj h
    exact .value outer
  | firstItem =>
    obtain rfl := Option.some.inj h
    exact .firstItem outer
  | nextItem done =>
    obtain rfl := Option.some.inj h
    exact .nextItem outer done
  | itemEnd | firstKey | memberEnd | nextKey | colon => cases h

theorem readTree_of_advance? {outer' : List Frame} {expect' : Expect}
    (h : advance? outer expect ts = some (outer', expect')) (rest : List Token) :
    readTree outer expect (ts ++ rest) = readTree outer' expect' rest := by
  induction ts generalizing outer expect with
  | nil =>
    obtain ⟨rfl, rfl⟩ := Prod.mk.inj (Option.some.inj h)
    rfl
  | cons token ts ih =>
    rw [advance?] at h
    rw [List.cons_append, readTree_cons]
    split at h
    · rename_i outer₁ expect₁ hstep
      rw [hstep]
      exact ih h
    · cases h

/-! ### Readers that differ in one place -/

/-- Elements that differ in one place. The last stands first. -/
def ItemsPut (y : Tree) (path : List Nat) (xs ys : List Tree) : Prop :=
  ∃ more done t u inside, xs = more ++ t :: done ∧ ys = more ++ u :: done ∧
    path = done.length :: inside ∧ Tree.Puts y inside t u

/-- Members that differ in one place. The last stands first. -/
def MembersPut (y : Tree) (path : List Nat) (ms ns : List (Key × Tree)) : Prop :=
  ∃ more done key t u inside, ms = more ++ (key, t) :: done ∧ ns = more ++ (key, u) :: done ∧
    path = done.length :: inside ∧ Tree.Puts y inside t u

theorem ItemsPut.cons (h : ItemsPut y path xs ys) (item : Tree) :
    ItemsPut y path (item :: xs) (item :: ys) := by
  obtain ⟨more, done, t, u, inside, rfl, rfl, rfl, hput⟩ := h
  exact ⟨item :: more, done, t, u, inside, rfl, rfl, rfl, hput⟩

theorem MembersPut.cons (h : MembersPut y path ms ns) (m : Key × Tree) :
    MembersPut y path (m :: ms) (m :: ns) := by
  obtain ⟨more, done, key, t, u, inside, rfl, rfl, rfl, hput⟩ := h
  exact ⟨m :: more, done, key, t, u, inside, rfl, rfl, rfl, hput⟩

theorem ItemsPut.array (h : ItemsPut y path xs ys) (stop : Stop) :
    Tree.Puts y path (.array xs.reverse stop) (.array ys.reverse stop) := by
  obtain ⟨more, done, t, u, inside, rfl, rfl, rfl, hput⟩ := h
  simp only [List.reverse_append, List.reverse_cons, List.append_assoc, List.singleton_append]
  rw [← List.length_reverse]
  exact .item hput

theorem MembersPut.object (h : MembersPut y path ms ns) (stop : Stop) :
    Tree.Puts y path (.object ms.reverse stop) (.object ns.reverse stop) := by
  obtain ⟨more, done, key, t, u, inside, rfl, rfl, rfl, hput⟩ := h
  simp only [List.reverse_append, List.reverse_cons, List.append_assoc, List.singleton_append]
  rw [← List.length_reverse]
  exact .member hput

/-- Readers that stand at the same token and differ in one place of what they have read. -/
inductive Near (y : Tree) : List Nat → List Frame → Expect → List Frame → Expect → Prop
  | itemEnd {path : List Nat} {xs ys : List Tree} (h : ItemsPut y path xs ys)
    (outer : List Frame) :
    Near y (framePath outer ++ path) outer (.itemEnd xs) outer (.itemEnd ys)
  | nextItem {path : List Nat} {xs ys : List Tree} (h : ItemsPut y path xs ys)
    (outer : List Frame) :
    Near y (framePath outer ++ path) outer (.nextItem xs) outer (.nextItem ys)
  | memberEnd {path : List Nat} {ms ns : List (Key × Tree)} (h : MembersPut y path ms ns)
    (outer : List Frame) :
    Near y (framePath outer ++ path) outer (.memberEnd ms) outer (.memberEnd ns)
  | nextKey {path : List Nat} {ms ns : List (Key × Tree)} (h : MembersPut y path ms ns)
    (outer : List Frame) :
    Near y (framePath outer ++ path) outer (.nextKey ms) outer (.nextKey ns)
  | colon {path : List Nat} {ms ns : List (Key × Tree)} (h : MembersPut y path ms ns)
    (outer : List Frame) (key : Key) :
    Near y (framePath outer ++ path) outer (.colon ms key) outer (.colon ns key)
  | items {path : List Nat} {xs ys : List Tree} (h : ItemsPut y path xs ys)
    (nested outer : List Frame) (expect : Expect) :
    Near y (framePath outer ++ path) (nested ++ .items xs :: outer) expect
      (nested ++ .items ys :: outer) expect
  | member {path : List Nat} {ms ns : List (Key × Tree)} (h : MembersPut y path ms ns)
    (nested outer : List Frame) (key : Key) (expect : Expect) :
    Near y (framePath outer ++ path) (nested ++ .member ms key :: outer) expect
      (nested ++ .member ns key :: outer) expect

/-- What steps of such readers come to. -/
inductive NearProgress (y : Tree) (path : List Nat) : Progress → Progress → Prop
  | going {outer outer' : List Frame} {expect expect' : Expect}
    (h : Near y path outer expect outer' expect') :
    NearProgress y path (.going outer expect) (.going outer' expect')
  | complete {t u : Tree} (h : Tree.Puts y path t u) :
    NearProgress y path (.complete t) (.complete u)
  | broken (t u : Tree) : NearProgress y path (.broken t) (.broken u)

theorem nearProgress_place (h : Tree.Puts y path t u) (outer : List Frame) :
    NearProgress y (framePath outer ++ path) (.place outer t) (.place outer u) := by
  rcases outer with - | ⟨done | ⟨done, key⟩, outer⟩
  · exact .complete h
  · rw [framePath_cons, List.append_assoc]
    exact .going (.itemEnd ⟨[], done, t, u, path, rfl, rfl, rfl, h⟩ outer)
  · rw [framePath_cons, List.append_assoc]
    exact .going (.memberEnd ⟨[], done, key, t, u, path, rfl, rfl, rfl, h⟩ outer)

theorem nearProgress_over_items (h : ItemsPut y path xs ys) (outer : List Frame)
    (progress : Progress) : NearProgress y (framePath outer ++ path)
      (progress.over (.items xs :: outer)) (progress.over (.items ys :: outer)) := by
  cases progress with
  | going nested expect => exact .going (.items h nested outer expect)
  | complete tree => exact .going (.itemEnd (h.cons tree) outer)
  | broken tree => exact .broken _ _

theorem nearProgress_over_member (h : MembersPut y path ms ns) (outer : List Frame) (key : Key)
    (progress : Progress) : NearProgress y (framePath outer ++ path)
      (progress.over (.member ms key :: outer)) (progress.over (.member ns key :: outer)) := by
  cases progress with
  | going nested expect => exact .going (.member h nested outer key expect)
  | complete tree => exact .going (.memberEnd (h.cons (key, tree)) outer)
  | broken tree => exact .broken _ _

/-- Such readers stay so with each token. -/
theorem Near.step {outer' : List Frame} {expect' : Expect}
    (h : Near y path outer expect outer' expect') (token : Token) :
    NearProgress y path (Progress.step outer expect token)
      (Progress.step outer' expect' token) := by
  cases h with
  | itemEnd h outer =>
    cases token with
    | comma => exact .going (.nextItem h outer)
    | closeArray => exact nearProgress_place (h.array .closed) outer
    | _ => exact .broken _ _
  | @nextItem _ xs ys h outer =>
    have hbegin := nearProgress_over_items h outer (Progress.begin [] token)
    rw [← Progress.begin_append, ← Progress.begin_append] at hbegin
    cases token with
    | closeArray => exact .broken _ _
    | _ => exact hbegin
  | memberEnd h outer =>
    cases token with
    | comma => exact .going (.nextKey h outer)
    | closeObject => exact nearProgress_place (h.object .closed) outer
    | _ => exact .broken _ _
  | nextKey h outer =>
    cases token with
    | text key => exact .going (.colon h outer key)
    | _ => exact .broken _ _
  | colon h outer key =>
    cases token with
    | colon => exact .going (.member h [] outer key .value)
    | _ => exact .broken _ _
  | items h nested outer =>
    rw [Progress.step_append, Progress.step_append]
    exact nearProgress_over_items h outer _
  | member h nested outer key =>
    rw [Progress.step_append, Progress.step_append]
    exact nearProgress_over_member h outer key _

/-- The trees that such readers come to differ in that place. -/
theorem NearProgress.resume_eq {a b : Progress} (h : NearProgress y path a b)
    (hread : resume a ts = (t, rest)) (ht : t.IsClosed)
    (hbroken : ∀ found, a = .broken found → ¬ found.IsClosed) :
    ∃ u, resume b ts = (u, rest) ∧ Tree.Puts y path t u := by
  induction ts generalizing a b with
  | nil =>
    cases h with
    | going h =>
      obtain ⟨rfl, -⟩ := Prod.mk.inj hread
      exact absurd ht (Progress.not_isClosed_finish _ _)
    | complete h =>
      obtain ⟨rfl, rfl⟩ := Prod.mk.inj hread
      exact ⟨_, rfl, h⟩
    | broken =>
      obtain ⟨rfl, -⟩ := Prod.mk.inj hread
      exact absurd ht (hbroken _ rfl)
  | cons token ts ih =>
    cases h with
    | going h =>
      rw [resume, readTree_cons] at hread
      rw [resume, readTree_cons]
      exact ih (h.step token) hread fun found hstep ↦ Progress.not_isClosed_of_step hstep
    | complete h =>
      obtain ⟨rfl, rfl⟩ := Prod.mk.inj hread
      exact ⟨_, rfl, h⟩
    | broken =>
      obtain ⟨rfl, -⟩ := Prod.mk.inj hread
      exact absurd ht (hbroken _ rfl)

end Places

/-! ### Texts -/

/-- Whether a text is that of one value, of which the tree is whole at its end. -/
def IsWhole (text : String) : Prop :=
  (Tree.ofText text).2 = false ∧ (Tree.ofText text).1.IsClosed

/-- A value that stands at some positions in a text, with what is before it and what is behind it.
-/
structure Occurrence (text : String) (path : List Nat) where
  before : String
  value : String
  after : String
  text_eq : text = before ++ value ++ after
  begins : pathAfter? before = some path
  whole : IsWhole value
  ends : Delimits after.toList

/-- The text with another one in the place of the value. -/
def Occurrence.replace {text : String} {path : List Nat} (place : Occurrence text path)
    (new : String) : String :=
  place.before ++ new ++ place.after

section Texts

variable {text before old new after : String} {path : List Nat} {t : Tree}

theorem IsWhole.readTree_eq (h : IsWhole old) :
    readTree [] .value (tokens old.toList) = ((Tree.ofText old).1, []) := by
  refine Prod.ext rfl (List.isEmpty_iff.mp ?_)
  simpa [Tree.ofText] using h.1

/-- The characters of a value come to its tokens before a delimiter. -/
theorem IsWhole.tokensFrom_append (h : IsWhole old) (hafter : Delimits after.toList) :
    tokensFrom .between (old.toList ++ after.toList) =
      tokens old.toList ++ tokensFrom .between after.toList := by
  have hdone : (Mode.run .between old.toList).2.IsDone := by
    by_contra hdone
    obtain ⟨front, last, htokens, hlast⟩ := exists_breaks_of_not_isDone hdone
    exact not_isClosed_of_breaks hlast (htokens ▸ h.readTree_eq) h.2
  rw [Json.tokensFrom_append, tokensFrom_of_isDone hdone hafter, ← List.append_assoc, tokens,
    tokensFrom_eq .between old.toList]

/-- What stands in a text where a value may begin is read into the frames around it. -/
theorem exists_readTree_eq (hbefore : pathAfter? before = some path) :
    ∃ inner, path = framePath inner ∧ ∀ {value : String}, IsWhole value →
      ∀ {after : String}, Delimits after.toList →
        readTree [] .value (tokens (before ++ value ++ after).toList) =
          resume (Progress.place inner (Tree.ofText value).1) (tokens after.toList) := by
  rw [pathAfter?] at hbefore
  split at hbefore
  · rename_i ts hrun
    obtain ⟨⟨outer, expect⟩, hadvance, hopened⟩ := Option.bind_eq_some_iff.mp hbefore
    obtain ⟨inner, hinner, hpath⟩ := Option.bind_eq_some_iff.mp hopened
    refine ⟨inner, (Option.some.inj hpath).symm, fun {value} hvalue {after} hafter ↦ ?_⟩
    have htokens : tokens (before ++ value ++ after).toList =
        ts ++ (tokens value.toList ++ tokens after.toList) := by
      rw [String.toList_append, String.toList_append, List.append_assoc, tokens,
        Json.tokensFrom_append, hrun, hvalue.tokensFrom_append hafter]
      rfl
    rw [htokens, readTree_of_advance? hadvance,
      readTree_of_opens hvalue.readTree_eq hvalue.2 (opened?_eq_some hinner)]
  · cases hbefore

/-- Where the text of a value is replaced by that of another, the tree of the text is changed at its
place and nowhere else. -/
theorem Occurrence.exists_ofText_replace (place : Occurrence text path) (hnew : IsWhole new)
    (htext : Tree.ofText text = (t, false)) (ht : t.IsClosed) :
    ∃ u, Tree.ofText (place.replace new) = (u, false) ∧ Tree.Puts (Tree.ofText new).1 path t u := by
  obtain ⟨before, old, after, rfl, hbefore, hold, hafter⟩ := place
  obtain ⟨inner, rfl, hread⟩ := exists_readTree_eq hbefore
  have hwhole : IsWhole (before ++ old ++ after) := by
    rw [IsWhole, htext]
    exact ⟨rfl, ht⟩
  have hbeforeTree := hwhole.readTree_eq
  rw [hread hold hafter, htext] at hbeforeTree
  have hnear := nearProgress_place (.here (y := (Tree.ofText new).1) (Tree.ofText old).1) inner
  rw [List.append_nil] at hnear
  obtain ⟨u, hu, hputs⟩ := hnear.resume_eq hbeforeTree ht fun found h ↦
    absurd h Progress.place_ne_broken
  refine ⟨u, ?_, hputs⟩
  rw [Occurrence.replace, Tree.ofText, hread hnew hafter, hu]
  rfl

end Texts

end DiagramMigrations.Json
