import BranchingStory.Proofs.Script.Locality

/-!
# What a reader goes past

The tokens between the cursor in front of an expression and the one behind it. Their brackets are closed,
each by its own kind, and commas, colons and assignment signs stand inside of brackets only, with no colon
right behind. If the expression is a place, its variable is the first word among them.
-/

namespace BranchingStory.Script

/-! ## Tokens with closed brackets -/

/-- Whether a token parts what stands on its two sides. -/
def Token.separates : Token → Bool
  | .comma | .colon | .assign _ => true
  | _ => false

def Token.isBracket : Token → Bool
  | .leftParen | .rightParen | .leftBracket | .rightBracket | .leftBrace | .rightBrace => true
  | _ => false

/-- Whether a token is neither a bracket nor a separator. -/
def Token.isPlain (t : Token) : Bool :=
  !t.separates && !t.isBracket

/-- An opening bracket and the one that closes it. -/
inductive Token.Encloses : Token → Token → Prop where
  | parens : Encloses .leftParen .rightParen
  | brackets : Encloses .leftBracket .rightBracket
  | braces : Encloses .leftBrace .rightBrace

/-- Tokens in which all brackets are closed. Outside of these there are separators only if the tokens
stand `inside` of brackets themselves. No colon stands right behind a separator. -/
inductive Closed : Bool → List Token → Prop where
  | nil {inside} :
    Closed inside []
  | plain {inside t ts} :
    t.isPlain →
    Closed inside ts →
    Closed inside (t :: ts)
  | separator {t ts} :
    t.separates →
    ts.head? ≠ some .colon →
    Closed true ts →
    Closed true (t :: ts)
  | group {inside left right ts us} :
    left.Encloses right →
    Closed true ts →
    Closed inside us →
    Closed inside (left :: ts ++ right :: us)

namespace Closed

variable {inside : Bool} {t left right : Token} {ts us : List Token}

/-- Anything may stand behind tokens without separators outside of their brackets. -/
lemma append (first : Closed false ts) (second : Closed inside us) : Closed inside (ts ++ us) := by
  generalize outside : false = here at first
  induction first with
  | nil => exact second
  | plain plain _ ih => exact .plain plain (ih outside)
  | separator => cases outside
  | group encloses within _ _ ih =>
    have grouped := Closed.group encloses within (ih outside)
    simpa only [List.cons_append, List.append_assoc] using grouped

/-- A separator may be the last of some tokens, so that no colon may stand behind these. -/
lemma join (first : Closed true ts) (second : Closed true us) (apart : us.head? ≠ some .colon) :
    Closed true (ts ++ us) := by
  generalize within : true = here at first ⊢
  induction first with
  | nil => exact within ▸ second
  | plain plain _ ih => exact .plain plain (ih within)
  | @separator t ts separates front _ ih =>
    refine .separator separates ?_ (ih within)
    cases ts with
    | nil => exact apart
    | cons => exact front
  | group encloses closed _ _ ih =>
    have grouped := Closed.group encloses closed (ih within)
    simpa only [List.cons_append, List.append_assoc] using grouped

lemma inBrackets (closed : Closed inside ts) : Closed true ts := by
  induction closed with
  | nil => exact .nil
  | plain plain _ ih => exact .plain plain ih
  | separator separates front _ ih => exact .separator separates front ih
  | group encloses within _ _ ih => exact .group encloses within ih

/-- No separator is the first of tokens that stand outside of brackets. -/
lemma head (closed : Closed false (t :: ts)) : t.separates = false := by
  generalize whole : t :: ts = row at closed
  cases closed with
  | nil => cases whole
  | plain plain =>
    cases whole
    exact (Bool.not_eq_true' _).mp (Bool.and_eq_true_iff.mp plain).1
  | group encloses =>
    cases whole
    cases encloses <;> rfl

lemma tail (closed : Closed false (t :: ts)) (plain : t.isPlain) : Closed false ts := by
  generalize whole : t :: ts = row at closed
  cases closed with
  | nil => cases whole
  | plain _ behind =>
    cases whole
    exact behind
  | group encloses =>
    cases whole
    cases encloses <;> cases plain

lemma head?_ne_colon (closed : Closed false ts) : ts.head? ≠ some .colon := by
  intro colon
  obtain ⟨more, rfl⟩ := List.head?_eq_some_iff.mp colon
  cases closed.head

lemma one (plain : t.isPlain) : Closed inside [t] :=
  .plain plain .nil

lemma last (separates : t.separates) : Closed true [t] :=
  .separator separates nil.head?_ne_colon .nil

lemma ended (closed : Closed true ts) : Closed true (ts ++ []) :=
  closed.join .nil nil.head?_ne_colon

end Closed

/-- Tokens that may lead inside of brackets: no colon is the first of them, and anything may
stand behind. -/
structure Leads (ts : List Token) : Prop where
  front : ∀ us, (ts ++ us).head? ≠ some .colon
  before : ∀ {us}, Closed true us → Closed true (ts ++ us)

namespace Leads

variable {t : Token} {ts us : List Token}

lemma of_closed (closed : Closed false ts) (full : ts ≠ []) : Leads ts where
  front us := by
    cases ts with
    | nil => exact absurd rfl full
    | cons => exact closed.head?_ne_colon
  before := closed.append

lemma separated (leads : Leads ts) (separates : t.separates) (behind : Closed true us) :
    Closed true (t :: (ts ++ us)) :=
  .separator separates (leads.front us) (leads.before behind)

lemma joined (first : Closed false ts) (full : ts ≠ []) (separates : t.separates) (second : Leads us) :
    Leads (ts ++ t :: us) where
  front ws := by
    rw [List.append_assoc]
    exact (of_closed first full).front _
  before behind := by
    rw [List.append_assoc]
    exact first.append (second.separated separates behind)

end Leads

/-- Tokens up to a closing bracket. -/
def Closes (right : Token) (ts : List Token) : Prop :=
  ∃ within, Closed true within ∧ ts = within ++ [right]

namespace Closes

variable {inside : Bool} {t left right : Token} {ts us : List Token}

lemma here : Closes right [right] :=
  ⟨[], .nil, rfl⟩

lemma of_closed (closed : Closed inside ts) : Closes right (ts ++ [right]) :=
  ⟨ts, closed.inBrackets, rfl⟩

lemma prepend (leads : Leads us) (closes : Closes right ts) : Closes right (us ++ ts) := by
  obtain ⟨within, further, rfl⟩ := closes
  exact ⟨us ++ within, leads.before further, (List.append_assoc _ _ _).symm⟩

lemma separated (separates : t.separates) (closes : Closes right ts) (front : ts.head? ≠ some .colon) :
    Closes right (t :: ts) := by
  obtain ⟨within, further, rfl⟩ := closes
  refine ⟨t :: within, .separator separates ?_ further, rfl⟩
  cases within with
  | nil => nofun
  | cons => exact front

lemma group (encloses : left.Encloses right) (closes : Closes right ts) (behind : Closed inside us) :
    Closed inside ([left] ++ (ts ++ us)) := by
  obtain ⟨within, closed, rfl⟩ := closes
  have grouped := Closed.group encloses closed behind
  simpa only [List.cons_append, List.append_assoc, List.nil_append] using grouped

lemma whole (encloses : left.Encloses right) (closes : Closes right ts) : Closed inside ([left] ++ ts) := by
  rw [← List.append_nil ts]
  exact closes.group encloses .nil

end Closes

/-- The name that tokens begin with behind opening parentheses. -/
def leadWord? : List Token → Option String
  | .leftParen :: ts => leadWord? ts
  | .name word :: _ => some word
  | _ => none

lemma leadWord?_append {word : String} {ts : List Token} (us : List Token)
    (leads : leadWord? ts = some word) : leadWord? (ts ++ us) = some word := by
  induction ts with
  | nil => cases leads
  | cons t ts ih =>
    cases t with
    | leftParen => exact ih leads
    | name => exact leads
    | _ => cases leads

/-- Whether an expression can begin with a token. -/
def Token.begins : Token → Bool
  | .int _ | .float _ | .str _ | .name _ | .truth | .falsity | .nothing | .not | .plus | .minus
  | .leftParen | .leftBracket | .leftBrace => true
  | _ => false

/-- Whether tokens go on as an expression begins. -/
def Begins (ts : List Token) : Prop :=
  ∃ t more, ts = t :: more ∧ t.begins

lemma Begins.append {ts : List Token} (h : Begins ts) (rest : List Token) : Begins (ts ++ rest) := by
  obtain ⟨t, more, rfl, begins⟩ := h
  exact ⟨t, more ++ rest, rfl, begins⟩

/-- Tokens that may stand for an expression. -/
structure Spells (e : Expr) (ts : List Token) : Prop where
  begins : Begins ts
  closed : Closed false ts
  root : ∀ word, e.root? = some word → leadWord? ts = some word

/-- Tokens that make an expression out of the one in front of them. -/
structure Extends (base e : Expr) (ts : List Token) : Prop where
  closed : Closed false ts
  root : ∀ word, e.root? = some word → base.root? = some word

namespace Spells

variable {base e : Expr} {t : Token} {ts us : List Token}

lemma full (spells : Spells e ts) : ts ≠ [] := by
  obtain ⟨t, more, rfl, _⟩ := spells.begins
  exact List.cons_ne_nil t more

lemma leads (spells : Spells e ts) : Leads ts :=
  .of_closed spells.closed spells.full

lemma extend (spells : Spells base ts) (further : Extends base e us) : Spells e (ts ++ us) where
  begins := spells.begins.append us
  closed := spells.closed.append further.closed
  root word root := leadWord?_append us (spells.root word (further.root word root))

lemma leads_of_no_root (rootless : e.root? = none) (ts : List Token) :
    ∀ word, e.root? = some word → leadWord? ts = some word := by
  intro word root
  rw [rootless] at root
  cases root

lemma of_no_root (begins : t.begins) (closed : Closed false (t :: ts)) (rootless : e.root? = none) :
    Spells e (t :: ts) :=
  ⟨⟨t, ts, rfl, begins⟩, closed, leads_of_no_root rootless _⟩

end Spells

namespace Extends

variable {base between e : Expr} {ts us : List Token}

lemma refl (e : Expr) : Extends e e [] :=
  ⟨.nil, fun _ root => root⟩

lemma of_no_root (closed : Closed false ts) (rootless : e.root? = none) : Extends base e ts where
  closed := closed
  root word root := by
    rw [rootless] at root
    cases root

lemma trans (first : Extends base between ts) (second : Extends between e us) :
    Extends base e (ts ++ us) where
  closed := first.closed.append second.closed
  root word root := first.root word (second.root word root)

end Extends

/-! ## Between two cursors -/

/-- An answer behind tokens that suit it, if there is one; `stop` is where it leaves the cursor. -/
def TakesFrom {σ : Type} (stop : σ → Cursor) (P : σ → List Token → Prop) (c : Cursor)
    (m : Except SyntaxError σ) : Prop :=
  ∀ r, m = .ok r → ∃ ts, c.Spans ts (stop r) ∧ P r ts

/-- A reader that goes past tokens that suit its answer. -/
def Takes {α : Type} (P : α → List Token → Prop) (reader : Reader α) : Prop :=
  ∀ c, TakesFrom (·.2) (fun r => P r.1) c (reader c)

/-- A reader of two things at once that goes past certain tokens. -/
def Takes₂ {α β : Type} (P : List Token → Prop) (reader : Cursor → Except SyntaxError (α × β × Cursor)) :
    Prop :=
  ∀ c, TakesFrom (·.2.2) (fun _ => P) c (reader c)

namespace TakesFrom

variable {σ τ : Type} {stop : σ → Cursor} {stop' : τ → Cursor} {P : σ → List Token → Prop}
  {Q : τ → List Token → Prop} {c : Cursor} {is : Token → Bool} {t : Token}

lemma answer {α : Type} {a : α} {P : α × Cursor → List Token → Prop} (suits : P (a, c) []) :
    TakesFrom (·.2) P c (.ok (a, c)) := by
  rintro _ ⟨⟩
  exact ⟨[], rfl, suits⟩

lemma answer₂ {α β : Type} {a : α} {b : β} {P : α × β × Cursor → List Token → Prop}
    (suits : P (a, b, c) []) : TakesFrom (·.2.2) P c (.ok (a, b, c)) := by
  rintro _ ⟨⟩
  exact ⟨[], rfl, suits⟩

lemma refused {fault : SyntaxError} : TakesFrom stop P c (.error fault) :=
  nofun

/-- Tokens that were gone past stand in front of those behind them. -/
lemma behind {ts : List Token} {c' : Cursor} (spans : c.Spans ts c') {m : Except SyntaxError σ}
    (takes : TakesFrom stop (fun r us => P r (ts ++ us)) c' m) : TakesFrom stop P c m := by
  intro r read
  obtain ⟨us, further, suits⟩ := takes r read
  exact ⟨ts ++ us, spans.append further, suits⟩

lemma andThen {α : Type} {P : α × Cursor → List Token → Prop} {m : Except SyntaxError (α × Cursor)}
    {f : α × Cursor → Except SyntaxError τ} (takes : TakesFrom (·.2) P c m)
    (next : ∀ a c' ts, P (a, c') ts → TakesFrom stop' (fun b us => Q b (ts ++ us)) c' (f (a, c'))) :
    TakesFrom stop' Q c (m >>= f) := by
  intro b read
  obtain ⟨⟨a, c'⟩, first, second⟩ := bind_eq_ok.mp read
  obtain ⟨ts, spans, suits⟩ := takes _ first
  exact behind spans (next a c' ts suits) b second

lemma andThen₂ {α β : Type} {P : α × β × Cursor → List Token → Prop}
    {m : Except SyntaxError (α × β × Cursor)} {f : α × β × Cursor → Except SyntaxError τ}
    (takes : TakesFrom (·.2.2) P c m)
    (next : ∀ a b c' ts, P (a, b, c') ts →
      TakesFrom stop' (fun r us => Q r (ts ++ us)) c' (f (a, b, c'))) :
    TakesFrom stop' Q c (m >>= f) := by
  intro r read
  obtain ⟨⟨a, b, c'⟩, first, second⟩ := bind_eq_ok.mp read
  obtain ⟨ts, spans, suits⟩ := takes _ first
  exact behind spans (next a b c' ts suits) r second

lemma weaken {m : Except SyntaxError σ} {P' : σ → List Token → Prop} (takes : TakesFrom stop P c m)
    (weaker : ∀ r ts, P r ts → P' r ts) : TakesFrom stop P' c m := by
  intro r read
  obtain ⟨ts, spans, suits⟩ := takes r read
  exact ⟨ts, spans, weaker r ts suits⟩

lemma advance (tests : t.Tests is) (found : c.at is) {m : Except SyntaxError σ}
    (takes : TakesFrom stop (fun r us => P r (t :: us)) c.advance m) : TakesFrom stop P c m :=
  behind (Cursor.spans_advance (tests.next found)) takes

lemma expect (tests : t.Tests is) {what : String} {f : Cursor → Except SyntaxError σ}
    (next : ∀ c', TakesFrom stop (fun r us => P r (t :: us)) c' (f c')) :
    TakesFrom stop P c (Script.expect is what c >>= f) := by
  intro r read
  obtain ⟨c', passed, rest⟩ := bind_eq_ok.mp read
  unfold Script.expect at passed
  split at passed
  · next found =>
    cases passed
    exact advance tests found (next _) r rest
  · cases passed

end TakesFrom

lemma spans_compareOp {c c' : Cursor} {op : CompareOp} (found : compareOp? c = some (op, c')) :
    ∃ ts, c.Spans ts c' ∧ Closed false ts := by
  unfold compareOp? at found
  split at found <;> cases found
  all_goals first
    | exact ⟨_, Cursor.spans_advance ‹_›, .one rfl⟩
    | exact ⟨_, Cursor.spans_advance_twice ‹_› ‹_›, .plain rfl (.one rfl)⟩

lemma spans_sumOp {c : Cursor} {op : BinaryOp} (found : sumOp? c = some op) :
    ∃ t, c.Spans [t] c.advance ∧ t.isPlain := by
  unfold sumOp? at found
  split at found <;> cases found
  all_goals exact ⟨_, Cursor.spans_advance ‹_›, rfl⟩

lemma spans_productOp {c : Cursor} {op : BinaryOp} (found : productOp? c = some op) :
    ∃ t, c.Spans [t] c.advance ∧ t.isPlain := by
  unfold productOp? at found
  split at found <;> cases found
  all_goals exact ⟨_, Cursor.spans_advance ‹_›, rfl⟩

lemma spans_signOp {c : Cursor} {op : UnaryOp} (found : signOp? c = some op) :
    ∃ t, c.Spans [t] c.advance ∧ t.begins ∧ t.isPlain := by
  unfold signOp? at found
  split at found <;> cases found
  all_goals exact ⟨_, Cursor.spans_advance ‹_›, rfl, rfl⟩

lemma spans_adjacentStrings (text : String) (stop last : Nat) (rest : List Located) :
    ∃ ts, rest.map (·.token) = ts ++ (adjacentStrings text stop last rest).2.tokens ∧
      Closed false ts := by
  induction rest generalizing text last with
  | nil => exact ⟨[], rfl, .nil⟩
  | cons next rest ih =>
    obtain ⟨token, column⟩ := next
    cases token with
    | str more =>
      obtain ⟨ts, spans, closed⟩ := ih (text ++ more) column
      exact ⟨.str more :: ts, congrArg (Token.str more :: ·) spans, .plain rfl closed⟩
    | _ => exact ⟨[], rfl, .nil⟩

lemma targets_takes (stop last : Nat) (rest : List Located) :
    TakesFrom (·.2) (fun _ => Leads) ⟨rest, last, stop⟩ (targets stop last rest) := by
  fun_induction targets stop last rest with
  | case1 last name column comma rest ih =>
    intro r read
    obtain ⟨⟨names, c⟩, later, rfl⟩ := map_eq_ok.mp read
    obtain ⟨ts, spans, leads⟩ := ih _ later
    refine ⟨.name name :: .comma :: ts, congrArg (Token.name name :: Token.comma :: ·) spans,
      fun us => by simp, ?_⟩
    exact fun closed => .plain rfl (leads.separated rfl closed)
  | case2 last name column rest _ =>
    rintro _ ⟨⟩
    exact ⟨[.name name], rfl, .of_closed (.one rfl) (List.cons_ne_nil _ _)⟩
  | case3 last rest => exact .refused

/-- With some fuel readers of expressions go past tokens that spell their answers, or extend what is in
front of them; readers behind an opening bracket go past the closing one. -/
structure ExtentsAt (fuel : Nat) : Prop where
  expression : Takes Spells (expression fuel)
  disjunction : Takes Spells (disjunction fuel)
  moreDisjuncts : ∀ left, Takes (Extends left) (moreDisjuncts fuel left)
  conjunction : Takes Spells (conjunction fuel)
  moreConjuncts : ∀ left, Takes (Extends left) (moreConjuncts fuel left)
  negation : Takes Spells (negation fuel)
  comparison : Takes Spells (comparison fuel)
  relations : Takes (fun _ => Closed false) (relations fuel)
  sum : Takes Spells (sum fuel)
  moreTerms : ∀ left, Takes (Extends left) (moreTerms fuel left)
  product : Takes Spells (product fuel)
  moreFactors : ∀ left, Takes (Extends left) (moreFactors fuel left)
  signed : Takes Spells (signed fuel)
  power : Takes Spells (power fuel)
  suffixes : ∀ base, Takes (Extends base) (suffixes fuel base)
  subscript : ∀ base, Takes (fun e ts => Closes .rightBracket ts ∧ Extends base e []) (subscript fuel base)
  sliceEnd : ∀ base start,
    Takes (fun e ts => (Closes .rightBracket ts ∧ ts.head? ≠ some .colon) ∧ Extends base e [])
      (sliceEnd fuel base start)
  arguments : ∀ args named,
    Takes₂ (fun ts => Closes .rightParen ts ∧ ts.head? ≠ some .colon) (arguments fuel args named)
  atom : Takes Spells (atom fuel)
  parenthesised :
    Takes (fun e ts => Closes .rightParen ts ∧ ∀ word, e.root? = some word → leadWord? ts = some word)
      (parenthesised fuel)
  bracketed : Takes (fun e ts => Closes .rightBracket ts ∧ e.root? = none) (bracketed fuel)
  moreItems : ∀ isClose, Takes (fun _ => Closed true) (moreItems fuel isClose)
  braced : Takes (fun e ts => Closes .rightBrace ts ∧ e.root? = none) (braced fuel)
  entry : Takes₂ Leads (entry fuel)
  moreEntries : Takes (fun _ => Closed true) (moreEntries fuel)
  clauses : Takes (fun _ => Closed true) (clauses fuel)
  conditions : Takes (fun _ => Closed false) (conditions fuel)

namespace ExtentsAt

variable {fuel : Nat}

lemma zero : ExtentsAt 0 := by
  constructor <;> intros <;> exact fun _ _ => nofun

lemma expression_succ (ih : ExtentsAt fuel) : Takes Spells (Script.expression (fuel + 1)) := by
  intro c
  unfold Script.expression
  refine (ih.disjunction c).andThen fun yes c ts spells => ?_
  simp only
  split
  · next isIf =>
    refine .advance .ifWord isIf ?_
    refine (ih.disjunction _).andThen fun condition c us ofCondition => ?_
    refine .expect .elseWord fun c => ?_
    refine (ih.expression c).andThen fun no c vs ofNo => ?_
    refine .answer (spells.extend (.of_no_root (.plain rfl ?_) rfl))
    exact ofCondition.closed.append (.plain rfl (ofNo.closed.append .nil))
  · exact .answer (spells.extend (.refl yes))

lemma disjunction_succ (ih : ExtentsAt fuel) : Takes Spells (Script.disjunction (fuel + 1)) := by
  intro c
  unfold Script.disjunction
  refine (ih.conjunction c).andThen fun left c ts spells => ?_
  exact (ih.moreDisjuncts left c).weaken fun _ _ further => spells.extend further

lemma moreDisjuncts_succ (ih : ExtentsAt fuel) (left : Expr) :
    Takes (Extends left) (Script.moreDisjuncts (fuel + 1) left) := by
  intro c
  unfold Script.moreDisjuncts
  split
  · next isOr =>
    refine .advance .or isOr ((ih.conjunction _).andThen fun right c ts spells => ?_)
    refine (ih.moreDisjuncts _ c).weaken fun _ us further => ?_
    exact (Extends.of_no_root (.plain rfl spells.closed) rfl).trans further
  · exact .answer (.refl left)

lemma conjunction_succ (ih : ExtentsAt fuel) : Takes Spells (Script.conjunction (fuel + 1)) := by
  intro c
  unfold Script.conjunction
  refine (ih.negation c).andThen fun left c ts spells => ?_
  exact (ih.moreConjuncts left c).weaken fun _ _ further => spells.extend further

lemma moreConjuncts_succ (ih : ExtentsAt fuel) (left : Expr) :
    Takes (Extends left) (Script.moreConjuncts (fuel + 1) left) := by
  intro c
  unfold Script.moreConjuncts
  split
  · next isAnd =>
    refine .advance .and isAnd ((ih.negation _).andThen fun right c ts spells => ?_)
    refine (ih.moreConjuncts _ c).weaken fun _ us further => ?_
    exact (Extends.of_no_root (.plain rfl spells.closed) rfl).trans further
  · exact .answer (.refl left)

lemma negation_succ (ih : ExtentsAt fuel) : Takes Spells (Script.negation (fuel + 1)) := by
  intro c
  unfold Script.negation
  split
  · next isNot =>
    refine .advance .not isNot ((ih.negation _).andThen fun operand c ts spells => ?_)
    exact .answer (.of_no_root rfl (.plain rfl (spells.closed.append .nil)) rfl)
  · exact ih.comparison c

lemma comparison_succ (ih : ExtentsAt fuel) : Takes Spells (Script.comparison (fuel + 1)) := by
  intro c
  unfold Script.comparison
  refine (ih.sum c).andThen fun first c ts spells => ?_
  refine (ih.relations c).andThen fun chain c us closed => .answer (spells.extend ?_)
  cases chain with
  | nil => exact ⟨closed.append .nil, fun _ root => root⟩
  | cons => exact .of_no_root (closed.append .nil) rfl

lemma relations_succ (ih : ExtentsAt fuel) : Takes (fun _ => Closed false) (Script.relations (fuel + 1)) := by
  intro c
  unfold Script.relations
  split
  · next op c' found =>
    obtain ⟨ts, spans, closed⟩ := spans_compareOp found
    refine .behind spans ((ih.sum c').andThen fun right c us spells => ?_)
    refine (ih.relations c).andThen fun chain c vs further => ?_
    exact .answer (closed.append (spells.closed.append (further.append .nil)))
  · exact .answer .nil

lemma sum_succ (ih : ExtentsAt fuel) : Takes Spells (Script.sum (fuel + 1)) := by
  intro c
  unfold Script.sum
  refine (ih.product c).andThen fun left c ts spells => ?_
  exact (ih.moreTerms left c).weaken fun _ _ further => spells.extend further

lemma moreTerms_succ (ih : ExtentsAt fuel) (left : Expr) :
    Takes (Extends left) (Script.moreTerms (fuel + 1) left) := by
  intro c
  unfold Script.moreTerms
  split
  · next op found =>
    obtain ⟨t, spans, plain⟩ := spans_sumOp found
    refine .behind spans ((ih.product _).andThen fun right c us spells => ?_)
    refine (ih.moreTerms _ c).weaken fun _ vs further => ?_
    exact (Extends.of_no_root (.plain plain spells.closed) rfl).trans further
  · exact .answer (.refl left)

lemma product_succ (ih : ExtentsAt fuel) : Takes Spells (Script.product (fuel + 1)) := by
  intro c
  unfold Script.product
  refine (ih.signed c).andThen fun left c ts spells => ?_
  exact (ih.moreFactors left c).weaken fun _ _ further => spells.extend further

lemma moreFactors_succ (ih : ExtentsAt fuel) (left : Expr) :
    Takes (Extends left) (Script.moreFactors (fuel + 1) left) := by
  intro c
  unfold Script.moreFactors
  split
  · next op found =>
    obtain ⟨t, spans, plain⟩ := spans_productOp found
    refine .behind spans ((ih.signed _).andThen fun right c us spells => ?_)
    refine (ih.moreFactors _ c).weaken fun _ vs further => ?_
    exact (Extends.of_no_root (.plain plain spells.closed) rfl).trans further
  · exact .answer (.refl left)

lemma signed_succ (ih : ExtentsAt fuel) : Takes Spells (Script.signed (fuel + 1)) := by
  intro c
  unfold Script.signed
  split
  · next op found =>
    obtain ⟨t, spans, begins, plain⟩ := spans_signOp found
    refine .behind spans ((ih.signed _).andThen fun operand c us spells => ?_)
    exact .answer (.of_no_root begins (.plain plain (spells.closed.append .nil)) rfl)
  · exact ih.power c

lemma power_succ (ih : ExtentsAt fuel) : Takes Spells (Script.power (fuel + 1)) := by
  intro c
  unfold Script.power
  refine (ih.atom c).andThen fun first c ts spells => ?_
  refine (ih.suffixes first c).andThen fun base c us further => ?_
  simp only
  split
  · next isPower =>
    refine .advance .power isPower ((ih.signed _).andThen fun exponent c vs ofExponent => ?_)
    refine .answer (spells.extend (.of_no_root (further.closed.append ?_) rfl))
    exact .plain rfl (ofExponent.closed.append .nil)
  · exact .answer (spells.extend (further.trans (.refl base)))

lemma suffixes_succ (ih : ExtentsAt fuel) (base : Expr) :
    Takes (Extends base) (Script.suffixes (fuel + 1) base) := by
  intro c
  unfold Script.suffixes
  split
  · next dot =>
    split
    · next attr name =>
      refine .behind (Cursor.spans_advance_twice dot name) ?_
      refine (ih.suffixes _ _).weaken fun e ts further => ?_
      exact (⟨.plain rfl (.one rfl), fun _ root => root⟩ : Extends base (.attr base attr) _).trans further
    · exact .refused
  · next paren =>
    refine .behind (Cursor.spans_advance paren) ((ih.arguments [] [] _).andThen₂ ?_)
    rintro args named c ts ⟨closes, _⟩
    refine (ih.suffixes _ c).weaken fun e us further => ?_
    refine ⟨closes.group .parens further.closed, fun word root => ?_⟩
    cases further.root word root
  · next bracket =>
    refine .behind (Cursor.spans_advance bracket) ((ih.subscript base _).andThen ?_)
    rintro item c ts ⟨closes, same⟩
    refine (ih.suffixes item c).weaken fun e us further => ?_
    exact ⟨closes.group .brackets further.closed, fun word root => same.root word (further.root word root)⟩
  · exact .answer (.refl base)

lemma subscript_succ (ih : ExtentsAt fuel) (base : Expr) :
    Takes (fun e ts => Closes .rightBracket ts ∧ Extends base e [])
      (Script.subscript (fuel + 1) base) := by
  intro c
  unfold Script.subscript
  split
  · next isColon =>
    refine .advance .colon isColon ((ih.sliceEnd base none _).weaken ?_)
    rintro e ts ⟨⟨closes, front⟩, same⟩
    exact ⟨closes.separated rfl front, same⟩
  · refine (ih.expression c).andThen fun start c ts spells => ?_
    simp only
    split
    · next isColon =>
      refine .advance .colon isColon ((ih.sliceEnd base (some start) _).weaken ?_)
      rintro e us ⟨⟨closes, front⟩, same⟩
      exact ⟨(closes.separated rfl front).prepend spells.leads, same⟩
    · exact .expect .rightBracket fun c =>
        .answer ⟨.of_closed spells.closed, .nil, fun _ root => root⟩

lemma sliceEnd_succ (ih : ExtentsAt fuel) (base : Expr) (start : Option Expr) :
    Takes (fun e ts => (Closes .rightBracket ts ∧ ts.head? ≠ some .colon) ∧ Extends base e [])
      (Script.sliceEnd (fuel + 1) base start) := by
  intro c
  unfold Script.sliceEnd
  split
  · next isRight =>
    exact .advance .rightBracket isRight (.answer ⟨⟨.here, by simp⟩, .of_no_root .nil rfl⟩)
  · refine (ih.expression c).andThen fun stop c ts spells => ?_
    refine .expect .rightBracket fun c => .answer ⟨⟨.of_closed spells.closed, ?_⟩, .of_no_root .nil rfl⟩
    exact spells.leads.front _

lemma arguments_succ (ih : ExtentsAt fuel) (args : List Expr) (named : List (String × Expr)) :
    Takes₂ (fun ts => Closes .rightParen ts ∧ ts.head? ≠ some .colon)
      (Script.arguments (fuel + 1) args named) := by
  intro c
  unfold Script.arguments
  -- What comes behind an argument.
  have behind (args : List Expr) (named : List (String × Expr)) (c : Cursor) {ts : List Token}
      (leads : Leads ts) :
      TakesFrom (·.2.2) (fun _ us => Closes .rightParen (ts ++ us) ∧ (ts ++ us).head? ≠ some .colon) c
        (if c.at Token.isComma then Script.arguments fuel args named c.advance
          else do
            let c ← Script.expect Token.isRightParen "')'" c
            return (args.reverse, named.reverse, c)) := by
    split
    · next isComma =>
      refine .advance .comma isComma ((ih.arguments args named _).weaken ?_)
      rintro _ us ⟨closes, front⟩
      exact ⟨(closes.separated rfl front).prepend leads, leads.front _⟩
    · exact .expect .rightParen fun c => .answer₂ ⟨Closes.here.prepend leads, leads.front _⟩
  split
  · next isRight => exact .advance .rightParen isRight (.answer₂ ⟨.here, by simp⟩)
  split
  · next name found =>
    refine .behind (spans_keyword found) ?_
    refine (ih.expression _).andThen fun value c ts spells => ?_
    have leads : Leads ([.name name] ++ .assign .set :: ts) :=
      .joined (.one rfl) (List.cons_ne_nil _ _) rfl spells.leads
    exact behind _ _ c leads
  split
  · refine (ih.expression c).andThen fun value c ts spells => ?_
    exact behind _ _ c spells.leads
  · exact .refused

lemma atom_succ (ih : ExtentsAt fuel) : Takes Spells (Script.atom (fuel + 1)) := by
  intro c
  unfold Script.atom
  split
  · exact .refused
  · next next_ rest same =>
    obtain ⟨token, column⟩ := next_
    have first : c.peek? = some token := by rw [Cursor.peek?, same]; rfl
    have spans := Cursor.spans_advance first
    -- A literal has no variable.
    have literal (value : Literal) (begins : token.begins) (plain : token.isPlain) :
        TakesFrom (·.2) (fun r => Spells r.1) c (.ok (.lit value, c.advance)) :=
      .behind spans (.answer (.of_no_root begins (.one plain) rfl))
    cases token with
    | int value => exact literal (.int value) rfl rfl
    | float value => exact literal (.float value) rfl rfl
    | truth => exact literal (.bool true) rfl rfl
    | falsity => exact literal (.bool false) rfl rfl
    | nothing => exact literal .none rfl rfl
    | str text =>
      obtain ⟨ts, behind, closed⟩ := spans_adjacentStrings text c.stop column rest
      rintro _ ⟨⟩
      refine ⟨.str text :: ts, ?_, .of_no_root rfl (.plain rfl closed) rfl⟩
      rw [Cursor.Spans, Cursor.tokens, same]
      exact congrArg (Token.str text :: ·) behind
    | name name =>
      refine .behind spans (.answer ⟨⟨_, _, rfl, rfl⟩, .one rfl, fun word root => ?_⟩)
      rw [← root]
      rfl
    | leftParen =>
      refine .behind spans ((ih.parenthesised _).weaken ?_)
      rintro e ts ⟨closes, root⟩
      exact ⟨⟨_, _, rfl, rfl⟩, closes.whole .parens, root⟩
    | leftBracket =>
      refine .behind spans ((ih.bracketed _).weaken ?_)
      rintro e ts ⟨closes, rootless⟩
      exact .of_no_root rfl (closes.whole .brackets) rootless
    | leftBrace =>
      refine .behind spans ((ih.braced _).weaken ?_)
      rintro e ts ⟨closes, rootless⟩
      exact .of_no_root rfl (closes.whole .braces) rootless
    | _ => exact .refused

lemma parenthesised_succ (ih : ExtentsAt fuel) :
    Takes (fun e ts => Closes .rightParen ts ∧ ∀ word, e.root? = some word → leadWord? ts = some word)
      (Script.parenthesised (fuel + 1)) := by
  intro c
  unfold Script.parenthesised
  split
  · next isRight =>
    exact .advance .rightParen isRight (.answer ⟨.here, Spells.leads_of_no_root rfl _⟩)
  refine (ih.expression c).andThen fun first c ts spells => ?_
  simp only
  split
  · refine (ih.clauses c).andThen fun clauses c us closed => ?_
    refine .expect .rightParen fun c => .answer ⟨?_, Spells.leads_of_no_root rfl _⟩
    exact (Closes.of_closed closed).prepend spells.leads
  split
  · refine (ih.moreItems _ c).andThen fun items c us closed => ?_
    refine .expect .rightParen fun c => .answer ⟨?_, Spells.leads_of_no_root rfl _⟩
    exact (Closes.of_closed closed).prepend spells.leads
  · refine .expect .rightParen fun c => .answer ⟨.of_closed spells.closed, fun word root => ?_⟩
    exact leadWord?_append _ (spells.root word root)

lemma bracketed_succ (ih : ExtentsAt fuel) :
    Takes (fun e ts => Closes .rightBracket ts ∧ e.root? = none) (Script.bracketed (fuel + 1)) := by
  intro c
  unfold Script.bracketed
  split
  · next isRight => exact .advance .rightBracket isRight (.answer ⟨.here, rfl⟩)
  refine (ih.expression c).andThen fun first c ts spells => ?_
  simp only
  split
  · refine (ih.clauses c).andThen fun clauses c us closed => ?_
    refine .expect .rightBracket fun c => .answer ⟨?_, rfl⟩
    exact (Closes.of_closed closed).prepend spells.leads
  · refine (ih.moreItems _ c).andThen fun items c us closed => ?_
    refine .expect .rightBracket fun c => .answer ⟨?_, rfl⟩
    exact (Closes.of_closed closed).prepend spells.leads

lemma moreItems_succ (ih : ExtentsAt fuel) (isClose : Token → Bool) :
    Takes (fun _ => Closed true) (Script.moreItems (fuel + 1) isClose) := by
  intro c
  unfold Script.moreItems
  split
  · next isComma =>
    refine .advance .comma isComma ?_
    split
    · exact .answer (.last rfl)
    · refine (ih.expression _).andThen fun item c ts spells => ?_
      refine (ih.moreItems isClose c).andThen fun items c us closed => .answer ?_
      exact spells.leads.separated rfl closed.ended
  · exact .answer .nil

lemma braced_succ (ih : ExtentsAt fuel) :
    Takes (fun e ts => Closes .rightBrace ts ∧ e.root? = none) (Script.braced (fuel + 1)) := by
  intro c
  unfold Script.braced
  split
  · next isRight => exact .advance .rightBrace isRight (.answer ⟨.here, rfl⟩)
  refine (ih.entry c).andThen₂ fun key value c ts ofEntry => ?_
  simp only
  split
  · refine (ih.clauses c).andThen fun clauses c us closed => ?_
    refine .expect .rightBrace fun c => .answer ⟨?_, rfl⟩
    exact (Closes.of_closed closed).prepend ofEntry
  · refine (ih.moreEntries c).andThen fun entries c us closed => ?_
    refine .expect .rightBrace fun c => .answer ⟨?_, rfl⟩
    exact (Closes.of_closed closed).prepend ofEntry

lemma entry_succ (ih : ExtentsAt fuel) : Takes₂ Leads (Script.entry (fuel + 1)) := by
  intro c
  unfold Script.entry
  refine (ih.expression c).andThen fun key c ts ofKey => ?_
  refine .expect .colon fun c => ?_
  refine (ih.expression c).andThen fun value c us ofValue => .answer₂ ?_
  rw [List.append_nil]
  exact .joined ofKey.closed ofKey.full rfl ofValue.leads

lemma moreEntries_succ (ih : ExtentsAt fuel) :
    Takes (fun _ => Closed true) (Script.moreEntries (fuel + 1)) := by
  intro c
  unfold Script.moreEntries
  split
  · next isComma =>
    refine .advance .comma isComma ?_
    split
    · exact .answer (.last rfl)
    · refine (ih.entry _).andThen₂ fun key value c ts ofEntry => ?_
      refine (ih.moreEntries c).andThen fun entries c us closed => .answer ?_
      exact ofEntry.separated rfl closed.ended
  · exact .answer .nil

lemma clauses_succ (ih : ExtentsAt fuel) : Takes (fun _ => Closed true) (Script.clauses (fuel + 1)) := by
  intro c
  unfold Script.clauses
  split
  · next isFor =>
    refine .advance .forWord isFor ((targets_takes _ _ _).andThen fun names c ts ofNames => ?_)
    refine .expect .isIn fun c => ?_
    refine (ih.disjunction c).andThen fun source c us spells => ?_
    refine (ih.conditions c).andThen fun conditions c vs ofConditions => ?_
    refine (ih.clauses c).andThen fun more c ws closed => .answer ?_
    refine .plain rfl (ofNames.before (.plain rfl (spells.closed.append ?_)))
    exact ofConditions.append closed.ended
  · exact .answer .nil

lemma conditions_succ (ih : ExtentsAt fuel) :
    Takes (fun _ => Closed false) (Script.conditions (fuel + 1)) := by
  intro c
  unfold Script.conditions
  split
  · next isIf =>
    refine .advance .ifWord isIf ((ih.disjunction _).andThen fun condition c ts spells => ?_)
    refine (ih.conditions c).andThen fun more c us closed => .answer ?_
    exact .plain rfl (spells.closed.append (closed.append .nil))
  · exact .answer .nil

lemma all (fuel : Nat) : ExtentsAt fuel := by
  induction fuel with
  | zero => exact zero
  | succ fuel ih =>
    exact {
      expression := ih.expression_succ
      disjunction := ih.disjunction_succ
      moreDisjuncts := ih.moreDisjuncts_succ
      conjunction := ih.conjunction_succ
      moreConjuncts := ih.moreConjuncts_succ
      negation := ih.negation_succ
      comparison := ih.comparison_succ
      relations := ih.relations_succ
      sum := ih.sum_succ
      moreTerms := ih.moreTerms_succ
      product := ih.product_succ
      moreFactors := ih.moreFactors_succ
      signed := ih.signed_succ
      power := ih.power_succ
      suffixes := ih.suffixes_succ
      subscript := ih.subscript_succ
      sliceEnd := ih.sliceEnd_succ
      arguments := ih.arguments_succ
      atom := ih.atom_succ
      parenthesised := ih.parenthesised_succ
      bracketed := ih.bracketed_succ
      moreItems := ih.moreItems_succ
      braced := ih.braced_succ
      entry := ih.entry_succ
      moreEntries := ih.moreEntries_succ
      clauses := ih.clauses_succ
      conditions := ih.conditions_succ }

end ExtentsAt

/-! ## Whole fragments -/

section Fragments

variable {cs : List Char}

/-- The tokens of a fragment spell the expression that it stands for. -/
theorem Expr.spells_of_read {e : Expr} (read : Expr.read cs = .ok e) :
    ∃ found, tokens cs = .ok found ∧ Spells e (found.map (·.token)) := by
  obtain ⟨found, c, scanned, _, taken, left⟩ := Expr.read_eq_ok.mp read
  obtain ⟨ts, spans, spells⟩ := (ExtentsAt.all _).expression _ (e, c) taken
  have whole : found.map (·.token) = ts ++ c.tokens := spans
  rw [left, List.append_nil] at whole
  exact ⟨found, scanned, whole ▸ spells⟩

/-- The tokens of an assignment spell its target in front of the sign and its value behind the sign. A text
with the tokens of the target stands for the target. -/
theorem Stmt.sides_of_read {target : Expr} {op : AssignOp} {value : Expr}
    (read : Stmt.read cs = .ok (.assign target op value)) :
    ∃ front column behind, tokens cs = .ok (front ++ ⟨.assign op, column⟩ :: behind) ∧
      Spells target (front.map (·.token)) ∧ Spells value (behind.map (·.token)) ∧ target.isPlace ∧
      ∀ ds found, tokens ds = .ok found → found.map (·.token) = front.map (·.token) →
        Expr.read ds = .ok target := by
  obtain ⟨found, c, c', scanned, _, taken, isPlace, sign, further, left⟩ := Stmt.read_assign.mp read
  obtain ⟨ts, spans, ofTarget⟩ := (ExtentsAt.all _).expression _ (target, c) taken
  obtain ⟨us, spans', ofValue⟩ := (ExtentsAt.all _).expression _ (value, c') further
  have next : c.tokens = .assign op :: c.advance.tokens := Cursor.spans_advance sign
  have after : c.advance.tokens = us ++ c'.tokens := spans'
  have whole : found.map (·.token) = ts ++ c.tokens := spans
  rw [next, after, left, List.append_nil] at whole
  obtain ⟨front, later, rfl, rfl, rest⟩ := List.map_eq_append_iff.mp whole
  obtain ⟨⟨_, column⟩, behind, rfl, rfl, rfl⟩ := List.map_eq_cons_iff.mp rest
  refine ⟨front, column, behind, scanned, ofTarget, ofValue, isPlace, fun ds found' scanned' same => ?_⟩
  obtain ⟨d, again, nothing⟩ := expression_cut (d := ⟨found', 0, ds.length⟩) taken spans sign same
    (same ▸ enough_fuel found')
  refine Expr.read_eq_ok.mpr ⟨found', d, scanned', ?_, again, nothing⟩
  rintro rfl
  exact ofTarget.full same.symm

/-- The tokens of an assignment spell its target in front of the sign. -/
theorem Stmt.spells_of_read {target : Expr} {op : AssignOp} {value : Expr}
    (read : Stmt.read cs = .ok (.assign target op value)) :
    ∃ front column behind, tokens cs = .ok (front ++ ⟨.assign op, column⟩ :: behind) ∧
      Spells target (front.map (·.token)) := by
  obtain ⟨front, column, behind, scanned, spells, _⟩ := Stmt.sides_of_read read
  exact ⟨front, column, behind, scanned, spells⟩

/-- A statement has tokens, and their brackets are closed. -/
theorem Stmt.closed_of_read {tree : Stmt} (read : Stmt.read cs = .ok tree) :
    ∃ found, tokens cs = .ok found ∧ found.map (·.token) ≠ [] ∧ Closed true (found.map (·.token)) := by
  cases tree with
  | expr e =>
    obtain ⟨found, scanned, spells⟩ := Expr.spells_of_read (Stmt.read_expr.mp read)
    exact ⟨found, scanned, spells.full, spells.closed.inBrackets⟩
  | assign target op value =>
    obtain ⟨front, column, behind, scanned, ofTarget, ofValue, _⟩ := Stmt.sides_of_read read
    refine ⟨_, scanned, ?_⟩
    rw [List.map_append, List.map_cons]
    refine ⟨List.append_ne_nil_of_left_ne_nil ofTarget.full _, ?_⟩
    exact ofTarget.closed.append (.separator rfl ofValue.closed.head?_ne_colon ofValue.closed.inBrackets)

end Fragments

end BranchingStory.Script
