import Mathlib.Tactic.Lemma
import BranchingStory.Script.Parser
import BranchingStory.Proofs.Answer

/-!
# What a reader looks at

What a reader answers depends on the tokens that it goes past and on the next one alone. It does not depend
on their columns, nor on what comes behind, nor on the fuel if there is enough. So a part of a fragment is
read by itself as it was read inside the fragment, where an assignment sign ends it.
-/

namespace BranchingStory.Script

def Cursor.tokens (c : Cursor) : List Token :=
  c.rest.map (·.token)

/-- The tokens from a cursor to a later one. -/
def Cursor.Spans (c : Cursor) (ts : List Token) (c' : Cursor) : Prop :=
  c.tokens = ts ++ c'.tokens

/-- Whether one cursor stands in front of the same tokens as another, up to an assignment sign at most. -/
def Cursor.CutTo (c d : Cursor) : Prop :=
  ∃ behind, c.tokens = d.tokens ++ behind ∧ ∀ t ∈ behind.head?, ∃ op, t = .assign op

/-- A test that holds of one token alone. -/
inductive Token.Tests : Token → (Token → Bool) → Prop where
  | elseWord : Tests .elseWord Token.isElse
  | forWord : Tests .forWord Token.isFor
  | ifWord : Tests .ifWord Token.isIf
  | or : Tests .or Token.isOr
  | and : Tests .and Token.isAnd
  | not : Tests .not Token.isNot
  | isIn : Tests .isIn Token.isInWord
  | power : Tests .doubleStar Token.isPower
  | comma : Tests .comma Token.isComma
  | colon : Tests .colon Token.isColon
  | rightParen : Tests .rightParen Token.isRightParen
  | rightBracket : Tests .rightBracket Token.isRightBracket
  | rightBrace : Tests .rightBrace Token.isRightBrace

lemma Token.Tests.eq {is : Token → Bool} {t u : Token} (tests : t.Tests is) (holds : is u) : u = t := by
  cases tests <;> cases u <;> first
    | rfl
    | cases holds

lemma Token.Tests.next {is : Token → Bool} {t : Token} (tests : t.Tests is) {c : Cursor}
    (found : c.at is) : c.peek? = some t := by
  unfold Cursor.at at found
  cases next : c.peek? with
  | none =>
    rw [next] at found
    cases found
  | some u =>
    rw [next] at found
    rw [tests.eq found]

namespace Cursor

variable {c c' d d' : Cursor} {t u : Token} {ts : List Token}

lemma peek?_eq (c : Cursor) : c.peek? = c.tokens.head? :=
  List.head?_map.symm

lemma second?_eq (c : Cursor) : c.second? = c.tokens.tail.head? := by
  rw [second?, tokens, ← List.map_tail, List.head?_map, List.drop_one]

lemma tokens_advance (c : Cursor) : c.advance.tokens = c.tokens.tail := by
  unfold tokens advance
  cases rest : c.rest with
  | nil => rw [rest]; rfl
  | cons => rfl

lemma peek?_advance (c : Cursor) : c.advance.peek? = c.second? := by
  rw [peek?_eq, tokens_advance, second?_eq]

lemma peek_eq_some : c.peek? = some t ↔ ∃ ts, c.tokens = t :: ts := by
  rw [peek?_eq]
  cases c.tokens with
  | nil => simp
  | cons u us => simp

lemma Spans.append {us : List Token} {c'' : Cursor} (first : c.Spans ts c') (second : c'.Spans us c'') :
    c.Spans (ts ++ us) c'' := by
  unfold Spans at first second ⊢
  rw [first, second, List.append_assoc]

lemma spans_advance (next : c.peek? = some t) : c.Spans [t] c.advance := by
  obtain ⟨ts, same⟩ := peek_eq_some.mp next
  rw [Spans, tokens_advance, same]
  rfl

lemma spans_advance_twice (next : c.peek? = some t) (second : c.second? = some u) :
    c.Spans [t, u] c.advance.advance := by
  refine (spans_advance next).append (spans_advance ?_)
  rwa [peek?_advance]

/-- What is cut stays cut behind the same tokens. -/
lemma CutTo.behind (cut : c.CutTo d) (left : c.Spans ts c') (right : d.Spans ts d') : c'.CutTo d' := by
  obtain ⟨behind, same, sign⟩ := cut
  refine ⟨behind, ?_, sign⟩
  rw [left, right, List.append_assoc] at same
  exact List.append_cancel_left same

lemma CutTo.peek (cut : c.CutTo d) :
    d.peek? = c.peek? ∨ d.tokens = [] ∧ ∃ op, c.peek? = some (.assign op) := by
  obtain ⟨behind, same, sign⟩ := cut
  rw [peek?_eq, peek?_eq, same]
  cases d.tokens with
  | cons => exact .inl rfl
  | nil =>
    cases behind with
    | nil => exact .inl rfl
    | cons t behind =>
      obtain ⟨op, rfl⟩ := sign t rfl
      exact .inr ⟨rfl, op, rfl⟩

/-- Both cursors are in front of the same token, unless it is an assignment sign. -/
lemma CutTo.same (cut : c.CutTo d) (next : c.peek? = some t) (plain : ∀ op, t ≠ .assign op) :
    d.peek? = some t ∧ c.advance.CutTo d.advance := by
  rcases cut.peek with same | ⟨_, op, sign⟩
  · rw [← next, same]
    refine ⟨rfl, ?_⟩
    rw [next] at same
    exact cut.behind (spans_advance next) (spans_advance same)
  · rw [next] at sign
    exact absurd (Option.some.inj sign) (plain op)

lemma CutTo.at_eq {is : Token → Bool} (cut : c.CutTo d) (tests : t.Tests is) : d.at is = c.at is := by
  rw [Cursor.at, Cursor.at]
  rcases cut.peek with same | ⟨none, op, sign⟩
  · rw [same]
  · rw [peek?_eq, none, sign]
    cases tests <;> rfl

lemma CutTo.sumOp (cut : c.CutTo d) : sumOp? d = sumOp? c := by
  rw [sumOp?, sumOp?]
  rcases cut.peek with same | ⟨none, op, sign⟩
  · rw [same]
  · rw [peek?_eq, none, sign]
    rfl

lemma CutTo.productOp (cut : c.CutTo d) : productOp? d = productOp? c := by
  rw [productOp?, productOp?]
  rcases cut.peek with same | ⟨none, op, sign⟩
  · rw [same]
  · rw [peek?_eq, none, sign]
    rfl

lemma CutTo.signOp (cut : c.CutTo d) : signOp? d = signOp? c := by
  rw [signOp?, signOp?]
  rcases cut.peek with same | ⟨none, op, sign⟩
  · rw [same]
  · rw [peek?_eq, none, sign]
    rfl

/-- What is found by the next token is found in front of one. -/
lemma exists_peek {α : Type} {look : Cursor → Option α} {a : α}
    (none : ∀ c : Cursor, c.peek? = none → look c = none) (found : look c = some a) :
    ∃ t, c.peek? = some t := by
  cases next : c.peek? with
  | none =>
    rw [none c next] at found
    cases found
  | some t => exact ⟨t, rfl⟩

/-- Both cursors are in front of the same relation, or of none. -/
lemma CutTo.compareOp (cut : c.CutTo d) :
    compareOp? c = none ∧ compareOp? d = none ∨
      ∃ op c' d' t ts, compareOp? c = some (op, c') ∧ compareOp? d = some (op, d') ∧
        c.Spans (t :: ts) c' ∧ d.Spans (t :: ts) d' := by
  rcases cut.peek with same | ⟨none, op, sign⟩
  · cases next : c.peek? with
    | none =>
      rw [next] at same
      exact .inl ⟨by rw [compareOp?, next], by rw [compareOp?, same]⟩
    | some t =>
      rw [next] at same
      have left := spans_advance next
      have right := spans_advance same
      have later := (cut.behind left right).peek
      rw [peek?_eq, peek?_eq, tokens_advance, tokens_advance, ← second?_eq, ← second?_eq] at later
      unfold compareOp?
      rw [next, same]
      rcases later with sameSecond | ⟨none, op, sign⟩
      · rw [sameSecond]
        split <;> first
          | exact .inl ⟨rfl, rfl⟩
          | exact .inr ⟨_, _, _, _, [], rfl, rfl, left, right⟩
          | exact .inr ⟨_, _, _, _, _, rfl, rfl, spans_advance_twice ‹_› ‹_›, spans_advance_twice ‹_› (by rw [sameSecond]; assumption)⟩
      · rw [sign, second?_eq, none]
        cases t <;> first
          | exact .inl ⟨rfl, rfl⟩
          | exact .inr ⟨_, _, _, _, [], rfl, rfl, left, right⟩
  · exact .inl ⟨by rw [compareOp?, sign], by rw [compareOp?, peek?_eq, none]; rfl⟩

end Cursor

lemma spans_keyword {c : Cursor} {name : String} (found : keyword? c = some name) :
    c.Spans [.name name, .assign .set] c.advance.advance := by
  unfold keyword? at found
  split at found <;> cases found
  exact Cursor.spans_advance_twice ‹_› ‹_›

lemma Cursor.CutTo.keyword {c d : Cursor} (cut : c.CutTo d) (missing : keyword? c = none) :
    keyword? d = none := by
  cases found : keyword? d with
  | none => rfl
  | some name =>
    obtain ⟨behind, same, _⟩ := cut
    rw [spans_keyword found] at same
    rw [keyword?, Cursor.peek?_eq, Cursor.second?_eq, same] at missing
    cases missing

/-! ## Readers beside one another -/

/-- Whether an answer from a cursor is found behind certain tokens, and a reader finds the same one from
every other cursor in front of these tokens, also if it is cut behind them. Fuel is enough if there are
sixteen steps for each of the tokens and `need` besides. -/
def Follows {σ τ : Type} (parts : σ → τ × Cursor) (need : Nat) (c : Cursor) (m : Except SyntaxError σ)
    (reader : Nat → Cursor → Except SyntaxError σ) : Prop :=
  ∀ r, m = .ok r → ∃ ts, c.Spans ts (parts r).2 ∧
    ∀ fuel d, 16 * ts.length + need ≤ fuel → c.CutTo d → ts <+: d.tokens →
      ∃ r', reader fuel d = .ok r' ∧ (parts r').1 = (parts r).1 ∧ d.Spans ts (parts r').2

/-- The two parts of an answer of two things and a cursor. -/
def both {α β : Type} (r : α × β × Cursor) : (α × β) × Cursor :=
  ((r.1, r.2.1), r.2.2)

/-- With some fuel a reader is followed from everywhere. -/
def Local {α : Type} (need : Nat) (reader : Nat → Reader α) (fuel : Nat) : Prop :=
  ∀ c, Follows id need c (reader fuel c) reader

/-- With some fuel a reader of two things at once is followed from everywhere. -/
def Local₂ {α β : Type} (need : Nat) (reader : Nat → Cursor → Except SyntaxError (α × β × Cursor))
    (fuel : Nat) : Prop :=
  ∀ c, Follows both need c (reader fuel c) reader

namespace Follows

variable {σ τ ρ υ α β : Type} {parts : σ → τ × Cursor} {parts' : ρ → υ × Cursor} {need need' : Nat}
  {c : Cursor} {m : Except SyntaxError σ} {reader reader' : Nat → Cursor → Except SyntaxError σ}
  {t : Token} {is : Token → Bool}

lemma refused {fault : SyntaxError} : Follows parts need c (.error fault) reader :=
  nofun

lemma answer {a : α} : Follows id need c (.ok (a, c)) fun _ d => .ok (a, d) := by
  rintro _ ⟨⟩
  exact ⟨[], rfl, fun _ d _ _ _ => ⟨(a, d), rfl, rfl, rfl⟩⟩

lemma answer₂ {a : α} {b : β} : Follows both need c (.ok (a, b, c)) fun _ d => .ok (a, b, d) := by
  rintro _ ⟨⟩
  exact ⟨[], rfl, fun _ d _ _ _ => ⟨(a, b, d), rfl, rfl, rfl⟩⟩

lemma mono {more : Nat} (h : Follows parts need c m reader) : Follows parts (more + need) c m reader := by
  intro r read
  obtain ⟨ts, spans, same⟩ := h r read
  exact ⟨ts, spans, fun fuel d enough => same fuel d (by omega)⟩

/-- A reader may be followed by another one that does the same at each cut cursor. -/
lemma of_eq (h : Follows parts need c m reader)
    (same : ∀ fuel d, c.CutTo d → reader' fuel d = reader fuel d) : Follows parts need c m reader' := by
  intro r read
  obtain ⟨ts, spans, followed⟩ := h r read
  refine ⟨ts, spans, fun fuel d enough cut front => ?_⟩
  rw [same fuel d cut]
  exact followed fuel d enough cut front

/-- A case distinction by the next token. -/
lemma ite {yes no : Except SyntaxError σ} {yes' no' : Nat → Cursor → Except SyntaxError σ}
    (tests : t.Tests is) (ofYes : c.at is → Follows parts need c yes yes')
    (ofNo : c.at is = false → Follows parts need c no no') :
    Follows parts need c (if c.at is then yes else no)
      fun fuel d => if d.at is then yes' fuel d else no' fuel d := by
  cases found : c.at is with
  | true => exact (ofYes found).of_eq fun fuel d cut => if_pos ((cut.at_eq tests).trans found)
  | false =>
    refine (ofNo found).of_eq fun fuel d cut => if_neg ?_
    rw [cut.at_eq tests, found]
    exact Bool.false_ne_true

/-- A reader behind some tokens. -/
lemma behind {ts : List Token} {c' : Cursor} (spans : c.Spans ts c') (full : ts ≠ [])
    (h : Follows parts (need + 16) c' m reader)
    (moves : ∀ fuel d, c.CutTo d → ts <+: d.tokens → ∃ d', d.Spans ts d' ∧ reader' fuel d = reader fuel d') :
    Follows parts need c m reader' := by
  intro r read
  obtain ⟨us, further, followed⟩ := h r read
  refine ⟨ts ++ us, spans.append further, fun fuel d enough cut front => ?_⟩
  obtain ⟨d', right, same⟩ := moves fuel d cut ((List.prefix_append ts us).trans front)
  have one := List.length_pos_iff.mpr full
  rw [List.length_append] at enough
  obtain ⟨r', found, value, spans'⟩ := followed fuel d' (by omega) (cut.behind spans right)
    (List.prefix_append_right_inj ts |>.mp (right ▸ front))
  exact ⟨r', same.trans found, value, right.append spans'⟩

/-- A reader behind the next token. -/
lemma past (next : c.peek? = some t) (h : Follows parts (need + 16) c.advance m reader) :
    Follows parts need c m fun fuel d => reader fuel d.advance := by
  refine behind (Cursor.spans_advance next) (List.cons_ne_nil _ _) h fun fuel d _ front => ?_
  obtain ⟨us, same⟩ := front
  exact ⟨d.advance, Cursor.spans_advance (Cursor.peek_eq_some.mpr ⟨us, same.symm⟩), rfl⟩

/-- One reader and then another, with one need. -/
lemma seq {m : Except SyntaxError (α × Cursor)} {f : α × Cursor → Except SyntaxError ρ}
    {reader : Nat → Reader α} {g : Nat → α × Cursor → Except SyntaxError ρ}
    (first : Follows id need c m reader)
    (next : ∀ a c', Follows parts' need c' (f (a, c')) fun fuel d => g fuel (a, d)) :
    Follows parts' need c (m >>= f) fun fuel d => reader fuel d >>= g fuel := by
  intro r read
  obtain ⟨⟨a, c'⟩, one, two⟩ := bind_eq_ok.mp read
  obtain ⟨ts, spans, followed⟩ := first _ one
  obtain ⟨us, further, followed'⟩ := next a c' r two
  refine ⟨ts ++ us, spans.append further, fun fuel d enough cut front => ?_⟩
  rw [List.length_append] at enough
  obtain ⟨⟨_, d'⟩, found, rfl, right⟩ :=
    followed fuel d (by omega) cut ((List.prefix_append ts us).trans front)
  have right : d.Spans ts d' := right
  obtain ⟨r', found', value, spans'⟩ := followed' fuel d' (by omega) (cut.behind spans right)
    (List.prefix_append_right_inj ts |>.mp (right ▸ front))
  exact ⟨r', bind_eq_ok.mpr ⟨_, found, found'⟩, value, right.append spans'⟩

/-- One reader and then another. -/
lemma andThen {more : Nat} {m : Except SyntaxError (α × Cursor)} {f : α × Cursor → Except SyntaxError ρ}
    {reader : Nat → Reader α} {g : Nat → α × Cursor → Except SyntaxError ρ}
    (first : Follows id need c m reader)
    (next : ∀ a c', Follows parts' (more + need) c' (f (a, c')) fun fuel d => g fuel (a, d)) :
    Follows parts' (more + need) c (m >>= f) fun fuel d => reader fuel d >>= g fuel :=
  first.mono.seq next

lemma andThen₂ {more : Nat} {m : Except SyntaxError (α × β × Cursor)}
    {f : α × β × Cursor → Except SyntaxError ρ}
    {reader : Nat → Cursor → Except SyntaxError (α × β × Cursor)}
    {g : Nat → α × β × Cursor → Except SyntaxError ρ} (first : Follows both need c m reader)
    (next : ∀ a b c', Follows parts' (more + need) c' (f (a, b, c')) fun fuel d => g fuel (a, b, d)) :
    Follows parts' (more + need) c (m >>= f) fun fuel d => reader fuel d >>= g fuel := by
  intro r read
  obtain ⟨⟨a, b, c'⟩, one, two⟩ := bind_eq_ok.mp read
  obtain ⟨ts, spans, followed⟩ := first _ one
  obtain ⟨us, further, followed'⟩ := next a b c' r two
  refine ⟨ts ++ us, spans.append further, fun fuel d enough cut front => ?_⟩
  rw [List.length_append] at enough
  obtain ⟨⟨a', b', d'⟩, found, value, right⟩ :=
    followed fuel d (by omega) cut ((List.prefix_append ts us).trans front)
  have right : d.Spans ts d' := right
  cases value
  obtain ⟨r', found', value, spans'⟩ := followed' fuel d' (by omega) (cut.behind spans right)
    (List.prefix_append_right_inj ts |>.mp (right ▸ front))
  exact ⟨r', bind_eq_ok.mpr ⟨_, found, found'⟩, value, right.append spans'⟩

/-- One reader behind the next token, and then another. -/
lemma pastThen {m : Except SyntaxError (α × Cursor)}
    {f : α × Cursor → Except SyntaxError ρ} {reader : Nat → Reader α}
    {g : Nat → α × Cursor → Except SyntaxError ρ} (next : c.peek? = some t)
    (first : Follows id (need + 16) c.advance m reader)
    (rest : ∀ a c', Follows parts' (need + 16) c' (f (a, c')) fun fuel d => g fuel (a, d)) :
    Follows parts' need c (m >>= f) fun fuel d => reader fuel d.advance >>= g fuel :=
  past next (first.seq rest)

/-- One reader behind a relation, and then another. -/
lemma relationThen {op : CompareOp} {c' : Cursor} {m : Except SyntaxError (α × Cursor)}
    {f : α × Cursor → Except SyntaxError ρ} {reader : Nat → Reader α}
    {reader' : Nat → Cursor → Except SyntaxError ρ} {g : Nat → α × Cursor → Except SyntaxError ρ}
    (found : compareOp? c = some (op, c')) (first : Follows id (need + 16) c' m reader)
    (rest : ∀ a c', Follows parts' (need + 16) c' (f (a, c')) fun fuel d => g fuel (a, d))
    (same : ∀ fuel d d', compareOp? d = some (op, d') → reader' fuel d = reader fuel d' >>= g fuel) : Follows parts' need c (m >>= f) reader' := by
  have self : c.CutTo c := ⟨[], (List.append_nil _).symm, nofun⟩
  rcases self.compareOp with ⟨none, _⟩ | ⟨_, _, _, t, ts, here, _, spans, _⟩
  · cases found.symm.trans none
  cases found.symm.trans here
  refine behind spans (List.cons_ne_nil _ _) (first.seq rest) fun fuel d cut _ => ?_
  rcases cut.compareOp with ⟨none, _⟩ | ⟨_, _, d', u, us, here, there, left, right⟩
  · cases found.symm.trans none
  cases found.symm.trans here
  have same_ : u :: us = t :: ts := List.append_cancel_right (left.symm.trans spans)
  exact ⟨d', same_ ▸ right, same fuel d d' there⟩

/-- One reader behind a keyword and its sign, and then another. -/
lemma keywordThen {name : String} {m : Except SyntaxError (α × Cursor)}
    {f : α × Cursor → Except SyntaxError ρ} {reader : Nat → Reader α}
    {reader' : Nat → Cursor → Except SyntaxError ρ} {g : Nat → α × Cursor → Except SyntaxError ρ}
    (found : keyword? c = some name) (first : Follows id (need + 16) c.advance.advance m reader)
    (rest : ∀ a c', Follows parts' (need + 16) c' (f (a, c')) fun fuel d => g fuel (a, d))
    (same : ∀ fuel d, keyword? d = some name → reader' fuel d = reader fuel d.advance.advance >>= g fuel) : Follows parts' need c (m >>= f) reader' := by
  refine behind (spans_keyword found) (List.cons_ne_nil _ _) (first.seq rest) fun fuel d _ front => ?_
  obtain ⟨us, front⟩ := front
  have here : keyword? d = some name := by
    rw [keyword?, Cursor.peek?_eq, Cursor.second?_eq, ← front]
    rfl
  exact ⟨d.advance.advance, spans_keyword here, same fuel d here⟩

/-- An expected token, and then a reader. -/
lemma expect (tests : t.Tests is) {what : String} {f : Cursor → Except SyntaxError σ}
    {g : Nat → Cursor → Except SyntaxError σ} (next : ∀ c', Follows parts (need + 16) c' (f c') g) :
    Follows parts need c (Script.expect is what c >>= f) fun fuel d => Script.expect is what d >>= g fuel := by
  cases found : c.at is with
  | false =>
    unfold Script.expect
    unfold Cursor.at at found
    rw [if_neg (Bool.eq_false_iff.mp found)]
    exact refused
  | true =>
    have passed (e : Cursor) (here : e.at is) : Script.expect is what e = .ok e.advance := if_pos here
    rw [passed c found]
    refine (past (tests.next found) (next c.advance)).of_eq fun fuel d cut => ?_
    rw [passed d ((cut.at_eq tests).trans found)]
    rfl

/-- A reader behind the next token, given as a function of the cursor there. -/
lemma onPast (next : c.peek? = some t) (reader : Nat → Cursor → Except SyntaxError σ)
    (h : Follows parts (need + 16) c.advance m reader) :
    Follows parts need c m fun fuel d => reader fuel d.advance :=
  past next h

/-- An answer behind the next token. -/
lemma token {a : α} (next : c.peek? = some t) :
    Follows id need c (.ok (a, c.advance)) fun _ d => .ok (a, d.advance) :=
  past next answer

/-- The variables of a clause. -/
lemma targets (stop last : Nat) (rest : List Located) :
    Follows id need ⟨rest, last, stop⟩ (Script.targets stop last rest)
      fun _ d => Script.targets d.stop d.last d.rest := by
  fun_induction Script.targets stop last rest with
  | case1 last name column comma rest ih =>
    intro r read
    obtain ⟨⟨names, c⟩, later, rfl⟩ := map_eq_ok.mp read
    obtain ⟨ts, spans, followed⟩ := ih _ later
    refine ⟨.name name :: .comma :: ts, congrArg (Token.name name :: Token.comma :: ·) spans, ?_⟩
    rintro fuel ⟨us, last', stop'⟩ enough ⟨behind, cut, sign⟩ ⟨vs, front⟩
    obtain ⟨⟨_, n⟩, us, rfl, rfl, second⟩ := List.map_eq_cons_iff.mp front.symm
    obtain ⟨⟨_, m⟩, us, rfl, rfl, third⟩ := List.map_eq_cons_iff.mp second
    obtain ⟨⟨names', d'⟩, found, value, right⟩ := followed fuel ⟨us, m, stop'⟩
      (by simp only [List.length_cons] at enough; omega)
      ⟨behind, (List.cons.inj (List.cons.inj cut).2).2, sign⟩ ⟨vs, third.symm⟩
    refine ⟨(name :: names', d'), ?_, congrArg (name :: ·) value,
      congrArg (Token.name name :: Token.comma :: ·) right⟩
    exact map_eq_ok.mpr ⟨_, found, rfl⟩
  | case2 last name column rest noComma =>
    rintro _ ⟨⟩
    refine ⟨[.name name], rfl, ?_⟩
    rintro fuel ⟨us, last', stop'⟩ _ ⟨behind, cut, sign⟩ ⟨vs, front⟩
    obtain ⟨⟨_, n⟩, us, rfl, rfl, front⟩ := List.map_eq_cons_iff.mp front.symm
    refine ⟨([name], ⟨us, n, stop'⟩), ?_, rfl, rfl⟩
    simp only
    rw [Script.targets]
    rintro m us rfl
    obtain ⟨⟨_, k⟩, more, rfl, rfl, _⟩ := List.map_eq_cons_iff.mp (List.cons.inj cut).2
    exact noComma _ _ rfl
  | case3 => exact .refused

/-- A string literal with those behind it. -/
lemma strings (text : String) (stop last : Nat) (rest : List Located) :
    Follows id need ⟨rest, last, stop⟩
      (.ok (Expr.lit (.str (adjacentStrings text stop last rest).1), (adjacentStrings text stop last rest).2))
      fun _ d => .ok (Expr.lit (.str (adjacentStrings text d.stop d.last d.rest).1),
        (adjacentStrings text d.stop d.last d.rest).2) := by
  induction rest generalizing text last with
  | nil =>
    rintro _ ⟨⟩
    refine ⟨[], rfl, ?_⟩
    rintro fuel ⟨us, last', stop'⟩ _ ⟨behind, cut, sign⟩ _
    obtain rfl : us = [] := List.map_eq_nil_iff.mp (List.append_eq_nil_iff.mp cut.symm).1
    exact ⟨_, rfl, rfl, rfl⟩
  | cons next rest ih =>
    obtain ⟨token, column⟩ := next
    cases token with
    | str more =>
      rintro _ ⟨⟩
      obtain ⟨ts, spans, followed⟩ := ih (text ++ more) column _ rfl
      refine ⟨.str more :: ts, congrArg (Token.str more :: ·) spans, ?_⟩
      rintro fuel ⟨us, last', stop'⟩ enough ⟨behind, cut, sign⟩ ⟨vs, front⟩
      obtain ⟨⟨_, n⟩, us, rfl, rfl, second⟩ := List.map_eq_cons_iff.mp front.symm
      obtain ⟨_, ⟨⟩, value, right⟩ := followed fuel ⟨us, n, stop'⟩
        (by simp only [List.length_cons] at enough; omega)
        ⟨behind, (List.cons.inj cut).2, sign⟩ ⟨vs, second.symm⟩
      exact ⟨_, rfl, value, congrArg (Token.str more :: ·) right⟩
    | _ =>
      rintro _ ⟨⟩
      refine ⟨[], rfl, ?_⟩
      rintro fuel ⟨us, last', stop'⟩ _ ⟨behind, cut, sign⟩ _
      cases us with
      | nil => exact ⟨_, rfl, rfl, rfl⟩
      | cons next us =>
        obtain ⟨token, n⟩ := next
        obtain rfl := (List.cons.inj cut).1
        exact ⟨_, rfl, rfl, rfl⟩

end Follows

/-- A step of a reader takes one of its fuel. -/
lemma Local.of_succ {α : Type} {need fuel : Nat} {reader : Nat → Reader α}
    (h : ∀ c, Follows id need c (reader (fuel + 1) c) fun fuel d => reader (fuel + 1) d) :
    Local (need + 1) reader (fuel + 1) := by
  intro c r read
  obtain ⟨ts, spans, followed⟩ := h c r read
  refine ⟨ts, spans, fun fuel d enough => ?_⟩
  cases fuel with
  | zero => omega
  | succ fuel => exact followed fuel d (by omega)

lemma Local₂.of_succ {α β : Type} {need fuel : Nat}
    {reader : Nat → Cursor → Except SyntaxError (α × β × Cursor)}
    (h : ∀ c, Follows both need c (reader (fuel + 1) c) fun fuel d => reader (fuel + 1) d) :
    Local₂ (need + 1) reader (fuel + 1) := by
  intro c r read
  obtain ⟨ts, spans, followed⟩ := h c r read
  refine ⟨ts, spans, fun fuel d enough => ?_⟩
  cases fuel with
  | zero => omega
  | succ fuel => exact followed fuel d (by omega)

/-- With some fuel all readers are followed. -/
structure LocalAt (fuel : Nat) : Prop where
  expression : Local 10 expression fuel
  disjunction : Local 9 disjunction fuel
  moreDisjuncts : ∀ left, Local 1 (moreDisjuncts · left) fuel
  conjunction : Local 8 conjunction fuel
  moreConjuncts : ∀ left, Local 1 (moreConjuncts · left) fuel
  negation : Local 7 negation fuel
  comparison : Local 6 comparison fuel
  relations : Local 1 relations fuel
  sum : Local 5 sum fuel
  moreTerms : ∀ left, Local 1 (moreTerms · left) fuel
  product : Local 4 product fuel
  moreFactors : ∀ left, Local 1 (moreFactors · left) fuel
  signed : Local 3 signed fuel
  power : Local 2 power fuel
  suffixes : ∀ base, Local 1 (suffixes · base) fuel
  subscript : ∀ base, Local 11 (subscript · base) fuel
  sliceEnd : ∀ base start, Local 11 (sliceEnd · base start) fuel
  arguments : ∀ args named, Local₂ 11 (arguments · args named) fuel
  atom : Local 1 atom fuel
  parenthesised : Local 11 parenthesised fuel
  bracketed : Local 11 bracketed fuel
  moreItems : ∀ {t : Token} {isClose : Token → Bool}, t.Tests isClose → Local 1 (moreItems · isClose) fuel
  braced : Local 12 braced fuel
  entry : Local₂ 11 entry fuel
  moreEntries : Local 1 moreEntries fuel
  clauses : Local 1 clauses fuel
  conditions : Local 1 conditions fuel

namespace LocalAt

variable {fuel : Nat}

lemma zero : LocalAt 0 := by
  constructor <;> intros <;> exact fun _ => nofun

lemma expression_succ (ih : LocalAt fuel) : Local 10 Script.expression (fuel + 1) := by
  refine .of_succ fun c => ?_
  unfold Script.expression
  refine (ih.disjunction c).andThen fun yes c => ?_
  refine .ite .ifWord (fun isIf => ?_) fun _ => .answer
  refine .pastThen (Token.Tests.ifWord.next isIf) (ih.disjunction _).mono fun condition c => ?_
  refine .expect .elseWord fun c => ?_
  exact (ih.expression c).andThen fun no c => .answer

lemma disjunction_succ (ih : LocalAt fuel) : Local 9 Script.disjunction (fuel + 1) := by
  refine .of_succ fun c => ?_
  unfold Script.disjunction
  exact (ih.conjunction c).andThen fun left c => (ih.moreDisjuncts left c).mono

lemma moreDisjuncts_succ (ih : LocalAt fuel) (left : Expr) :
    Local 1 (Script.moreDisjuncts · left) (fuel + 1) := by
  refine .of_succ fun c => ?_
  unfold Script.moreDisjuncts
  refine .ite .or (fun isOr => ?_) fun _ => .answer
  refine .pastThen (Token.Tests.or.next isOr) (ih.conjunction _).mono fun right c => ?_
  exact (ih.moreDisjuncts _ c).mono

lemma conjunction_succ (ih : LocalAt fuel) : Local 8 Script.conjunction (fuel + 1) := by
  refine .of_succ fun c => ?_
  unfold Script.conjunction
  exact (ih.negation c).andThen fun left c => (ih.moreConjuncts left c).mono

lemma moreConjuncts_succ (ih : LocalAt fuel) (left : Expr) :
    Local 1 (Script.moreConjuncts · left) (fuel + 1) := by
  refine .of_succ fun c => ?_
  unfold Script.moreConjuncts
  refine .ite .and (fun isAnd => ?_) fun _ => .answer
  refine .pastThen (Token.Tests.and.next isAnd) (ih.negation _).mono fun right c => ?_
  exact (ih.moreConjuncts _ c).mono

lemma negation_succ (ih : LocalAt fuel) : Local 7 Script.negation (fuel + 1) := by
  refine .of_succ fun c => ?_
  unfold Script.negation
  refine .ite .not (fun isNot => ?_) fun _ => ih.comparison c
  exact .pastThen (Token.Tests.not.next isNot) (ih.negation _).mono fun operand c => .answer

lemma comparison_succ (ih : LocalAt fuel) : Local 6 Script.comparison (fuel + 1) := by
  refine .of_succ fun c => ?_
  unfold Script.comparison
  refine (ih.sum c).andThen fun first c => ?_
  exact (ih.relations c).andThen fun chain c => .answer

lemma sum_succ (ih : LocalAt fuel) : Local 5 Script.sum (fuel + 1) := by
  refine .of_succ fun c => ?_
  unfold Script.sum
  exact (ih.product c).andThen fun left c => (ih.moreTerms left c).mono

lemma moreTerms_succ (ih : LocalAt fuel) (left : Expr) : Local 1 (Script.moreTerms · left) (fuel + 1) := by
  refine .of_succ fun c => ?_
  unfold Script.moreTerms
  cases found : sumOp? c with
  | none => exact Follows.answer.of_eq fun _ d cut => by rw [cut.sumOp, found]
  | some op =>
    obtain ⟨t, next⟩ := Cursor.exists_peek (fun c none => by rw [sumOp?, none]) found
    refine .of_eq ?_ fun fuel d cut => by rw [cut.sumOp, found]
    refine .pastThen next (ih.product _).mono fun right c => ?_
    exact (ih.moreTerms _ c).mono

lemma product_succ (ih : LocalAt fuel) : Local 4 Script.product (fuel + 1) := by
  refine .of_succ fun c => ?_
  unfold Script.product
  exact (ih.signed c).andThen fun left c => (ih.moreFactors left c).mono

lemma moreFactors_succ (ih : LocalAt fuel) (left : Expr) :
    Local 1 (Script.moreFactors · left) (fuel + 1) := by
  refine .of_succ fun c => ?_
  unfold Script.moreFactors
  cases found : productOp? c with
  | none => exact Follows.answer.of_eq fun _ d cut => by rw [cut.productOp, found]
  | some op =>
    obtain ⟨t, next⟩ := Cursor.exists_peek (fun c none => by rw [productOp?, none]) found
    refine .of_eq ?_ fun fuel d cut => by rw [cut.productOp, found]
    refine .pastThen next (ih.signed _).mono fun right c => ?_
    exact (ih.moreFactors _ c).mono

lemma signed_succ (ih : LocalAt fuel) : Local 3 Script.signed (fuel + 1) := by
  refine .of_succ fun c => ?_
  unfold Script.signed
  cases found : signOp? c with
  | none => exact (ih.power c).of_eq fun _ d cut => by rw [cut.signOp, found]
  | some op =>
    obtain ⟨t, next⟩ := Cursor.exists_peek (fun c none => by rw [signOp?, none]) found
    refine .of_eq ?_ fun fuel d cut => by rw [cut.signOp, found]
    exact .pastThen next (ih.signed _).mono fun operand c => .answer

lemma relations_succ (ih : LocalAt fuel) : Local 1 Script.relations (fuel + 1) := by
  refine .of_succ fun c => ?_
  unfold Script.relations
  cases found : compareOp? c with
  | none =>
    refine Follows.answer.of_eq fun _ d cut => ?_
    rcases cut.compareOp with ⟨_, none⟩ | ⟨_, _, _, _, _, some, _⟩
    · rw [none]
    · cases found.symm.trans some
  | some next =>
    refine .relationThen found (ih.sum _).mono (fun right c => ?_) fun fuel d d' found => by rw [found]
    exact (ih.relations c).andThen fun chain c => .answer

lemma power_succ (ih : LocalAt fuel) : Local 2 Script.power (fuel + 1) := by
  refine .of_succ fun c => ?_
  unfold Script.power
  refine (ih.atom c).andThen fun base c => ?_
  refine (ih.suffixes base c).andThen fun base c => ?_
  refine .ite .power (fun isPower => ?_) fun _ => .answer
  exact .pastThen (Token.Tests.power.next isPower) (ih.signed _).mono fun exponent c => .answer

lemma subscript_succ (ih : LocalAt fuel) (base : Expr) : Local 11 (Script.subscript · base) (fuel + 1) := by
  refine .of_succ fun c => ?_
  unfold Script.subscript
  have bounded (start : Option Expr) {need : Nat} {c : Cursor} (isColon : c.at Token.isColon) :
      Follows id need c (Script.sliceEnd fuel base start c.advance)
        fun fuel d => Script.sliceEnd fuel base start d.advance :=
    .past (Token.Tests.colon.next isColon) (ih.sliceEnd base start _).mono
  refine .ite .colon (bounded none) fun _ => ?_
  refine (ih.expression c).andThen fun start c => ?_
  refine .ite .colon (bounded (some start)) fun _ => ?_
  exact .expect .rightBracket fun c => .answer

lemma sliceEnd_succ (ih : LocalAt fuel) (base : Expr) (start : Option Expr) :
    Local 11 (Script.sliceEnd · base start) (fuel + 1) := by
  refine .of_succ fun c => ?_
  unfold Script.sliceEnd
  refine .ite .rightBracket (fun isRight => .token (Token.Tests.rightBracket.next isRight)) fun _ => ?_
  refine (ih.expression c).andThen fun stop c => ?_
  exact .expect .rightBracket fun c => .answer

lemma arguments_succ (ih : LocalAt fuel) (args : List Expr) (named : List (String × Expr)) :
    Local₂ 11 (Script.arguments · args named) (fuel + 1) := by
  refine .of_succ fun c => ?_
  unfold Script.arguments
  -- What comes behind an argument.
  have further (args : List Expr) (named : List (String × Expr)) (c : Cursor) {need : Nat} :
      Follows both need c
        (if c.at Token.isComma then Script.arguments fuel args named c.advance
          else do
            let c ← Script.expect Token.isRightParen "')'" c
            return (args.reverse, named.reverse, c))
        fun fuel d =>
          if d.at Token.isComma then Script.arguments fuel args named d.advance
          else do
            let d ← Script.expect Token.isRightParen "')'" d
            return (args.reverse, named.reverse, d) :=
    .ite .comma (fun isComma => .past (Token.Tests.comma.next isComma)
      ((ih.arguments args named _).mono)) fun _ => .expect .rightParen fun c => .answer₂
  refine .ite .rightParen (fun isRight => .past (Token.Tests.rightParen.next isRight) .answer₂) fun _ => ?_
  cases found : keyword? c with
  | some name =>
    refine .keywordThen found (ih.expression _).mono (fun value c => ?_) fun fuel d found => by rw [found]
    exact further _ _ c
  | none =>
    refine .of_eq ?_ fun fuel d cut => by rw [cut.keyword found]
    cases named.isEmpty with
    | false => exact .refused
    | true => exact (ih.expression c).andThen fun value c => further _ _ c

lemma suffixes_succ (ih : LocalAt fuel) (base : Expr) : Local 1 (Script.suffixes · base) (fuel + 1) := by
  refine .of_succ fun c => ?_
  unfold Script.suffixes
  split
  · next dot =>
    split
    · next attr name =>
      have second := (c.peek?_advance).trans name
      refine (Follows.past dot (.past second (ih.suffixes (.attr base attr) _).mono)).of_eq ?_
      intro fuel d cut
      obtain ⟨here, later⟩ := cut.same dot nofun
      have there := (later.same second nofun).1
      rw [Cursor.peek?_advance] at there
      simp only [here, there]
    · exact .refused
  · next paren =>
    refine .of_eq ?_ fun fuel d cut => by rw [(cut.same paren nofun).1]
    refine .onPast paren (fun fuel d => Script.arguments fuel [] [] d >>= fun call =>
      Script.suffixes fuel (.call base call.1 call.2.1) call.2.2) ?_
    exact (ih.arguments [] [] _).andThen₂ fun args named c => (ih.suffixes _ c).mono
  · next bracket =>
    refine .of_eq ?_ fun fuel d cut => by rw [(cut.same bracket nofun).1]
    refine .pastThen bracket (ih.subscript base _).mono fun base c => ?_
    exact (ih.suffixes base c).mono
  · next noDot noParen noBracket =>
    refine Follows.answer.of_eq fun fuel d cut => ?_
    rcases cut.peek with same | ⟨none, _⟩
    · rw [same]
      split <;> first
        | contradiction
        | rfl
    · rw [Cursor.peek?_eq, none]
      rfl

lemma parenthesised_succ (ih : LocalAt fuel) : Local 11 Script.parenthesised (fuel + 1) := by
  refine .of_succ fun c => ?_
  unfold Script.parenthesised
  refine .ite .rightParen (fun isRight => .token (Token.Tests.rightParen.next isRight)) fun _ => ?_
  refine (ih.expression c).andThen fun first c => ?_
  refine .ite .forWord (fun _ => ?_) fun _ => .ite .comma (fun _ => ?_) fun _ => ?_
  · refine (ih.clauses c).andThen fun clauses c => ?_
    exact .expect .rightParen fun c => .answer
  · refine (ih.moreItems .rightParen c).andThen fun items c => ?_
    exact .expect .rightParen fun c => .answer
  · exact .expect .rightParen fun c => .answer

lemma bracketed_succ (ih : LocalAt fuel) : Local 11 Script.bracketed (fuel + 1) := by
  refine .of_succ fun c => ?_
  unfold Script.bracketed
  refine .ite .rightBracket (fun isRight => .token (Token.Tests.rightBracket.next isRight)) fun _ => ?_
  refine (ih.expression c).andThen fun first c => ?_
  refine .ite .forWord (fun _ => ?_) fun _ => ?_
  · refine (ih.clauses c).andThen fun clauses c => ?_
    exact .expect .rightBracket fun c => .answer
  · refine (ih.moreItems .rightBracket c).andThen fun items c => ?_
    exact .expect .rightBracket fun c => .answer

lemma moreItems_succ (ih : LocalAt fuel) {t : Token} {isClose : Token → Bool} (tests : t.Tests isClose) :
    Local 1 (Script.moreItems · isClose) (fuel + 1) := by
  refine .of_succ fun c => ?_
  unfold Script.moreItems
  refine .ite .comma (fun isComma => ?_) fun _ => .answer
  have next := Token.Tests.comma.next isComma
  refine .onPast next (fun fuel d => if d.at isClose then .ok ([], d) else
    Script.expression fuel d >>= fun item =>
      Script.moreItems fuel isClose item.2 >>= fun items => return (item.1 :: items.1, items.2)) ?_
  refine .ite tests (fun _ => .answer) fun _ => ?_
  refine (ih.expression _).andThen fun item c => ?_
  dsimp only
  exact (ih.moreItems tests c).andThen fun items c => .answer

lemma braced_succ (ih : LocalAt fuel) : Local 12 Script.braced (fuel + 1) := by
  refine .of_succ fun c => ?_
  unfold Script.braced
  refine .ite .rightBrace (fun isRight => .token (Token.Tests.rightBrace.next isRight)) fun _ => ?_
  refine (ih.entry c).andThen₂ fun key value c => ?_
  refine .ite .forWord (fun _ => ?_) fun _ => ?_
  · refine (ih.clauses c).andThen fun clauses c => ?_
    exact .expect .rightBrace fun c => .answer
  · refine (ih.moreEntries c).andThen fun entries c => ?_
    exact .expect .rightBrace fun c => .answer

lemma entry_succ (ih : LocalAt fuel) : Local₂ 11 Script.entry (fuel + 1) := by
  refine .of_succ fun c => ?_
  unfold Script.entry
  refine (ih.expression c).andThen fun key c => ?_
  refine .expect .colon fun c => ?_
  exact (ih.expression c).andThen fun value c => .answer₂

lemma moreEntries_succ (ih : LocalAt fuel) : Local 1 Script.moreEntries (fuel + 1) := by
  refine .of_succ fun c => ?_
  unfold Script.moreEntries
  refine .ite .comma (fun isComma => ?_) fun _ => .answer
  refine .onPast (Token.Tests.comma.next isComma) (fun fuel d =>
    if d.at Token.isRightBrace then .ok ([], d) else
      Script.entry fuel d >>= fun entry =>
        Script.moreEntries fuel entry.2.2 >>= fun entries =>
          return ((entry.1, entry.2.1) :: entries.1, entries.2)) ?_
  refine .ite .rightBrace (fun _ => .answer) fun _ => ?_
  refine (ih.entry _).andThen₂ fun key value c => ?_
  dsimp only
  exact (ih.moreEntries c).andThen fun entries c => .answer

lemma clauses_succ (ih : LocalAt fuel) : Local 1 Script.clauses (fuel + 1) := by
  refine .of_succ fun c => ?_
  unfold Script.clauses
  refine .ite .forWord (fun isFor => ?_) fun _ => .answer
  refine .pastThen (Token.Tests.forWord.next isFor) (Follows.targets _ _ _).mono fun names c => ?_
  refine .expect .isIn fun c => ?_
  refine (ih.disjunction c).andThen fun source c => ?_
  refine (ih.conditions c).andThen fun conditions c => ?_
  exact (ih.clauses c).andThen fun more c => .answer

lemma conditions_succ (ih : LocalAt fuel) : Local 1 Script.conditions (fuel + 1) := by
  refine .of_succ fun c => ?_
  unfold Script.conditions
  refine .ite .ifWord (fun isIf => ?_) fun _ => .answer
  refine .pastThen (Token.Tests.ifWord.next isIf) (ih.disjunction _).mono fun condition c => ?_
  exact (ih.conditions c).andThen fun more c => .answer

lemma atom_succ (ih : LocalAt fuel) : Local 1 Script.atom (fuel + 1) := by
  refine .of_succ fun c => ?_
  unfold Script.atom
  obtain ⟨rest, last, stop⟩ := c
  cases rest with
  | nil => exact .refused
  | cons next rest =>
    obtain ⟨t, column⟩ := next
    have first : Cursor.peek? ⟨⟨t, column⟩ :: rest, last, stop⟩ = some t := rfl
    have here {d : Cursor} (plain : ∀ op, t ≠ .assign op) (cut : Cursor.CutTo ⟨⟨t, column⟩ :: rest, last, stop⟩ d) :
        ∃ m us, d.rest = ⟨t, m⟩ :: us := by
      have next := (cut.same first plain).1
      unfold Cursor.peek? at next
      cases same : d.rest with
      | nil => rw [same] at next; cases next
      | cons n us =>
        rw [same] at next
        cases next
        exact ⟨n.column, us, rfl⟩
    cases t with
    | int | float | truth | falsity | nothing | name =>
      refine (Follows.token first).of_eq fun fuel d cut => ?_
      obtain ⟨m, us, same⟩ := here nofun cut
      rw [same]
    | str text =>
      refine (Follows.past first (Follows.strings text stop column rest)).of_eq fun fuel d cut => ?_
      obtain ⟨m, us, same⟩ := here nofun cut
      rw [same, Cursor.advance, same]
    | leftParen =>
      refine (Follows.past first (ih.parenthesised _).mono).of_eq fun fuel d cut => ?_
      obtain ⟨m, us, same⟩ := here nofun cut
      rw [same]
    | leftBracket =>
      refine (Follows.past first (ih.bracketed _).mono).of_eq fun fuel d cut => ?_
      obtain ⟨m, us, same⟩ := here nofun cut
      rw [same]
    | leftBrace =>
      refine (Follows.past first (ih.braced _).mono).of_eq fun fuel d cut => ?_
      obtain ⟨m, us, same⟩ := here nofun cut
      rw [same]
    | _ => exact .refused

lemma all (fuel : Nat) : LocalAt fuel := by
  induction fuel with
  | zero => exact zero
  | succ fuel ih =>
    exact {
      expression := ih.expression_succ
      disjunction := ih.disjunction_succ
      moreDisjuncts := ih.moreDisjuncts_succ
      conjunction := ih.conjunction_succ
      moreConjuncts := ih.moreConjuncts_succ
      negation := ih.negation_succ
      comparison := ih.comparison_succ
      relations := ih.relations_succ
      sum := ih.sum_succ
      moreTerms := ih.moreTerms_succ
      product := ih.product_succ
      moreFactors := ih.moreFactors_succ
      signed := ih.signed_succ
      power := ih.power_succ
      suffixes := ih.suffixes_succ
      subscript := ih.subscript_succ
      sliceEnd := ih.sliceEnd_succ
      arguments := ih.arguments_succ
      atom := ih.atom_succ
      parenthesised := ih.parenthesised_succ
      bracketed := ih.bracketed_succ
      moreItems := ih.moreItems_succ
      braced := ih.braced_succ
      entry := ih.entry_succ
      moreEntries := ih.moreEntries_succ
      clauses := ih.clauses_succ
      conditions := ih.conditions_succ }

end LocalAt

/-! ## Whole fragments -/

section Fragments

variable {cs ds : List Char} {found found' : List Located} {e : Expr} {c c' d : Cursor} {ts : List Token}
  {fuel fuel' : Nat}

lemma expression_suffix (read : expression fuel c = .ok (e, c')) : c'.tokens <:+ c.tokens := by
  obtain ⟨ts, spans, _⟩ := (LocalAt.all fuel).expression c _ read
  exact ⟨ts, spans.symm⟩

/-- In front of the same tokens there is the same expression. -/
lemma expression_blind (read : expression fuel c = .ok (e, c')) (same : d.tokens = c.tokens)
    (enough : 16 * d.tokens.length + 10 ≤ fuel') :
    ∃ d', expression fuel' d = .ok (e, d') ∧ d'.tokens = c'.tokens := by
  obtain ⟨ts, spans, followed⟩ := (LocalAt.all fuel).expression c _ read
  have whole : d.tokens = ts ++ c'.tokens := same.trans spans
  have lengths := congrArg List.length whole
  rw [List.length_append] at lengths
  obtain ⟨⟨_, d'⟩, found, rfl, right⟩ := followed fuel' d (by omega)
    ⟨[], by rw [same, List.append_nil], nofun⟩ (whole ▸ List.prefix_append ts _)
  exact ⟨d', found, List.append_cancel_left (right.symm.trans whole)⟩

/-- In front of the tokens up to an assignment sign there is the same expression, and nothing else. -/
lemma expression_cut {op : AssignOp} (read : expression fuel c = .ok (e, c')) (spans : c.Spans ts c')
    (sign : c'.peek? = some (.assign op)) (same : d.tokens = ts) (enough : 16 * ts.length + 10 ≤ fuel') :
    ∃ d', expression fuel' d = .ok (e, d') ∧ d'.tokens = [] := by
  obtain ⟨us, further, followed⟩ := (LocalAt.all fuel).expression c _ read
  obtain rfl : us = ts := List.append_cancel_right (further.symm.trans spans)
  obtain ⟨behind, next⟩ := Cursor.peek_eq_some.mp sign
  have cut : c.CutTo d := by
    refine ⟨c'.tokens, by rw [same, spans], ?_⟩
    rw [next]
    rintro _ ⟨⟩
    exact ⟨op, rfl⟩
  obtain ⟨⟨_, d'⟩, found, rfl, right⟩ := followed fuel' d enough cut (same ▸ List.prefix_refl _)
  have right : d.tokens = us ++ d'.tokens := right
  rw [same] at right
  exact ⟨d', found, List.self_eq_append_right.mp right⟩

/-- A whole fragment is given enough fuel. -/
lemma enough_fuel (found : List Located) :
    16 * (found.map (·.token)).length + 10 ≤ 16 * (found.length + 1) := by
  rw [List.length_map]
  omega

lemma full_of_same (same : found.map (·.token) = found'.map (·.token)) (full : found ≠ []) : found' ≠ [] := by
  rintro rfl
  exact full (List.map_eq_nil_iff.mp same)

lemma open?_eq_ok {start : Cursor × Nat} :
    open? cs = .ok start ↔
      ∃ found, tokens cs = .ok found ∧ found ≠ [] ∧ (⟨found, 0, cs.length⟩, 16 * (found.length + 1)) = start := by
  unfold open?
  rw [bind_eq_ok]
  refine exists_congr fun found => and_congr_right fun _ => ?_
  cases found with
  | nil => exact ⟨nofun, fun h => absurd rfl h.1⟩
  | cons => exact ⟨fun h => ⟨List.cons_ne_nil _ _, Except.ok.inj h⟩, fun h => congrArg Except.ok h.2⟩

lemma atEnd_eq_ok {u : Unit} : atEnd c = .ok u ↔ c.tokens = [] := by
  unfold atEnd Cursor.tokens
  cases c.rest with
  | nil => exact ⟨fun _ => rfl, fun _ => rfl⟩
  | cons => exact ⟨nofun, nofun⟩

/-- A fragment is an expression if one is read in front of its tokens and none of them is left. -/
lemma Expr.read_eq_ok :
    Expr.read cs = .ok e ↔
      ∃ found c, tokens cs = .ok found ∧ found ≠ [] ∧
        expression (16 * (found.length + 1)) ⟨found, 0, cs.length⟩ = .ok (e, c) ∧ c.tokens = [] := by
  simp only [Expr.read, located, mapError_eq_ok, bind_eq_ok, open?_eq_ok, atEnd_eq_ok, pure_eq_ok]
  constructor
  · rintro ⟨_, ⟨found, scanned, full, rfl⟩, ⟨e, c⟩, read, _, left, rfl⟩
    exact ⟨found, c, scanned, full, read, left⟩
  · rintro ⟨found, c, scanned, full, read, left⟩
    exact ⟨_, ⟨found, scanned, full, rfl⟩, ⟨e, c⟩, read, (), left, rfl⟩

/-- A statement that assigns nothing is an expression. -/
lemma Stmt.read_expr : Stmt.read cs = .ok (.expr e) ↔ Expr.read cs = .ok e := by
  rw [Expr.read_eq_ok]
  simp only [Stmt.read, located, mapError_eq_ok, bind_eq_ok, open?_eq_ok]
  constructor
  · rintro ⟨_, ⟨found, scanned, full, rfl⟩, ⟨first, c⟩, read, rest⟩
    split at rest
    · split at rest
      · simp only [bind_eq_ok, pure_eq_ok] at rest
        obtain ⟨_, _, _, _, same⟩ := rest
        cases same
      · cases rest
    · simp only [bind_eq_ok, atEnd_eq_ok, pure_eq_ok] at rest
      obtain ⟨_, left, same⟩ := rest
      cases same
      exact ⟨found, c, scanned, full, read, left⟩
  · rintro ⟨found, c, scanned, full, read, left⟩
    refine ⟨_, ⟨found, scanned, full, rfl⟩, ⟨e, c⟩, read, ?_⟩
    have none : c.peek? = none := by rw [Cursor.peek?_eq, left]; rfl
    simp only [none, bind_eq_ok, atEnd_eq_ok]
    exact ⟨(), left, rfl⟩

/-- A fragment is an assignment if a place, the sign and a value are read in front of its tokens and none of
these is left. -/
lemma Stmt.read_assign {target value : Expr} {op : AssignOp} :
    Stmt.read cs = .ok (.assign target op value) ↔
      ∃ found c c', tokens cs = .ok found ∧ found ≠ [] ∧
        expression (16 * (found.length + 1)) ⟨found, 0, cs.length⟩ = .ok (target, c) ∧ target.isPlace ∧
        c.peek? = some (.assign op) ∧
        expression (16 * (found.length + 1)) c.advance = .ok (value, c') ∧ c'.tokens = [] := by
  simp only [Stmt.read, located, mapError_eq_ok, bind_eq_ok, open?_eq_ok]
  constructor
  · rintro ⟨_, ⟨found, scanned, full, rfl⟩, ⟨first, c⟩, read, rest⟩
    split at rest
    · next op' sign =>
      split at rest
      · next isPlace =>
        simp only [bind_eq_ok, atEnd_eq_ok, pure_eq_ok] at rest
        obtain ⟨⟨value', c'⟩, behind, _, left, same⟩ := rest
        cases same
        exact ⟨found, c, c', scanned, full, read, isPlace, sign, behind, left⟩
      · cases rest
    · simp only [bind_eq_ok, pure_eq_ok] at rest
      obtain ⟨_, _, same⟩ := rest
      cases same
  · rintro ⟨found, c, c', scanned, full, read, isPlace, sign, behind, left⟩
    refine ⟨_, ⟨found, scanned, full, rfl⟩, ⟨target, c⟩, read, ?_⟩
    simp only [sign, isPlace, if_true, bind_eq_ok, atEnd_eq_ok]
    exact ⟨⟨value, c'⟩, behind, (), left, rfl⟩

/-- Two texts with the same tokens are the same expression. -/
theorem Expr.read_blind (left : tokens cs = .ok found) (right : tokens ds = .ok found')
    (same : found.map (·.token) = found'.map (·.token)) (read : Expr.read cs = .ok e) :
    Expr.read ds = .ok e := by
  obtain ⟨_, c, scanned, full, read, ended⟩ := Expr.read_eq_ok.mp read
  cases left.symm.trans scanned
  obtain ⟨d, again, behind⟩ := expression_blind (d := ⟨found', 0, ds.length⟩) read same.symm (enough_fuel _)
  exact Expr.read_eq_ok.mpr ⟨found', d, right, full_of_same same full, again, behind.trans ended⟩

/-- Two texts with the same tokens are the same statement. -/
theorem Stmt.read_blind (left : tokens cs = .ok found) (right : tokens ds = .ok found')
    (same : found.map (·.token) = found'.map (·.token)) {tree : Stmt} (read : Stmt.read cs = .ok tree) :
    Stmt.read ds = .ok tree := by
  cases tree with
  | expr e => exact Stmt.read_expr.mpr (Expr.read_blind left right same (Stmt.read_expr.mp read))
  | assign target op value =>
    obtain ⟨_, c, c', scanned, full, ofTarget, isPlace, sign, ofValue, ended⟩ := Stmt.read_assign.mp read
    cases left.symm.trans scanned
    obtain ⟨d, target_, atSign⟩ :=
      expression_blind (d := ⟨found', 0, ds.length⟩) ofTarget same.symm (enough_fuel _)
    have fewer := ((d.tokens_advance ▸ List.tail_suffix _).trans (expression_suffix target_)).length_le
    obtain ⟨d', value_, behind⟩ := expression_blind (d := d.advance) ofValue
      (by rw [d.tokens_advance, c.tokens_advance, atSign])
      (Nat.le_trans (Nat.add_le_add_right (Nat.mul_le_mul_left 16 fewer) 10) (enough_fuel _))
    refine Stmt.read_assign.mpr ⟨found', d, d', right, full_of_same same full, target_, isPlace, ?_, value_,
      behind.trans ended⟩
    rwa [Cursor.peek?_eq, atSign, ← Cursor.peek?_eq]

end Fragments

end BranchingStory.Script
