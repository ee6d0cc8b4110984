import BranchingStory.Proofs.Script.Scanning

/-!
# Tokens of texts

The tokens of a text without their columns, read with the rest of the text in place. A text can be cut
in front of an assignment, and glued again with white space around it, and has the same tokens.
-/

namespace BranchingStory.Script

open Text

/-- The tokens in front of a rest of a text. -/
inductive Lexes : List Char → List Token → List Char → Prop where
  | done (cs : List Char) :
    Lexes cs [] cs
  | blank {c cs ts rest} :
    isBlank c →
    Lexes cs ts rest →
    Lexes (c :: cs) ts rest
  | token {cs t cs' ts rest} :
    Scans cs t cs' →
    Lexes cs' ts rest →
    Lexes cs (t :: ts) rest

namespace Lexes

variable {u v w cs rest : List Char} {ts us : List Token}

lemma append (first : Lexes u ts v) (second : Lexes v us w) : Lexes u (ts ++ us) w := by
  induction first with
  | done => exact second
  | blank blank _ ih => exact .blank blank (ih second)
  | token scans _ ih => exact .token scans (ih second)

lemma blanks {gap : List Char} (blank : ∀ c ∈ gap, isBlank c) (rest : List Char) :
    Lexes (gap ++ rest) [] rest := by
  induction gap with
  | nil => exact .done rest
  | cons c gap ih =>
    refine .blank (blank c List.mem_cons_self) (ih ?_)
    exact fun d member => blank d (List.mem_cons_of_mem _ member)

lemma suffix (h : Lexes cs ts rest) : ∃ taken, cs = taken ++ rest := by
  induction h with
  | done => exact ⟨[], rfl⟩
  | @blank c _ _ _ _ _ ih =>
    obtain ⟨taken, rfl⟩ := ih
    exact ⟨c :: taken, rfl⟩
  | token scans _ ih =>
    obtain ⟨taken, rfl⟩ := ih
    obtain ⟨front, _, rfl⟩ := scans.suffix
    exact ⟨front ++ taken, (List.append_assoc _ _ _).symm⟩

/-- Tokens in front of a cut are the same without what is behind it. -/
lemma cut (stops : Stops v) (h : Lexes (u ++ v) ts v) : Lexes u ts [] := by
  generalize whole : u ++ v = cs at h
  generalize same : v = rest at h
  induction h generalizing u with
  | done cs =>
    subst same
    have nothing : u = [] := by simpa using whole
    rw [nothing]
    exact .done []
  | @blank c cs ts rest blank later ih =>
    subst same
    cases u with
    | nil =>
      -- The whole text is behind the cut, and cannot be longer than itself.
      obtain ⟨taken, longer⟩ := later.suffix
      have lengths := congrArg List.length whole
      rw [longer] at lengths
      simp only [List.nil_append, List.length_cons, List.length_append] at lengths
      omega
    | cons d u =>
      rw [List.cons_append, List.cons.injEq] at whole
      obtain ⟨rfl, whole⟩ := whole
      exact .blank blank (ih whole rfl)
  | @token cs t cs' ts rest scans later ih =>
    subst same
    -- The cut lies behind the token, as what the token leaves ends in what is behind the cut.
    obtain ⟨left, rfl⟩ := later.suffix
    subst whole
    exact .token (scans.cut stops) (ih rfl rfl)

/-- White space behind a text changes none of its tokens. -/
lemma extend (h : Lexes u ts []) (spaced : Spaced v) : Lexes (u ++ v) ts v := by
  generalize nothing : [] = rest at h
  induction h with
  | done cs =>
    subst nothing
    exact .done v
  | blank blank _ ih => exact .blank blank (ih nothing)
  | token scans _ ih => exact .token (scans.append spaced) (ih nothing)

lemma of_blank {c : Char} (blank : isBlank c) (h : Lexes (c :: cs) ts []) : Lexes cs ts [] := by
  cases h with
  | blank _ later => exact later
  | token scans _ =>
    have head := scans.head
    rw [blank] at head
    cases head

lemma skip (h : Lexes cs ts []) : Lexes (cs.dropWhile isBlank) ts [] := by
  induction cs with
  | nil => exact h
  | cons c cs ih =>
    rw [List.dropWhile_cons]
    split
    · next blank => exact ih (h.of_blank blank)
    · exact h

end Lexes

/-- One step of the scanner: there is only white space, or there is a token behind it. -/
lemma scanTokens_step {column fuel : Nat} {cs : List Char} {found : List Located}
    (h : scanTokens column cs (fuel + 1) = .ok found) :
    (found = [] ∧ Lexes cs [] []) ∨
      ∃ gap text t rest more, cs = gap ++ text ∧ Lexes cs [] text ∧ Scans text t rest ∧
        found = ⟨t, column + gap.length⟩ :: more ∧
        scanTokens (column + gap.length + (text.length - rest.length)) rest fuel = .ok more := by
  have parts := List.takeWhile_append_dropWhile (p := isBlank) (l := cs)
  have blank : ∀ c ∈ cs.takeWhile isBlank, isBlank c := List.all_eq_true.mp List.all_takeWhile
  have skip := Lexes.blanks blank (cs.dropWhile isBlank)
  rw [parts] at skip
  have width : cs.length - (cs.dropWhile isBlank).length = (cs.takeWhile isBlank).length := by
    have lengths := congrArg List.length parts
    rw [List.length_append] at lengths
    omega
  unfold scanTokens at h
  simp only [width] at h
  split at h
  · next nothing =>
    cases h
    rw [nothing] at skip
    exact .inl ⟨rfl, skip⟩
  · split at h
    · cases h
    · next t rest scanned =>
      rw [map_eq_ok] at h
      obtain ⟨more, later, rfl⟩ := h
      exact .inr ⟨_, _, t, rest, more, parts.symm, skip, scans_of_scanToken scanned, rfl, later⟩

/-- The tokens that the scanner finds are those of the text. -/
lemma lexes_of_scanTokens {column fuel : Nat} {cs : List Char} {found : List Located}
    (enough : cs.length < fuel) (h : scanTokens column cs fuel = .ok found) :
    Lexes cs (found.map (·.token)) [] := by
  -- A token takes a character at least, so that the fuel outlasts the text.
  induction fuel generalizing column cs found with
  | zero => exact absurd enough (Nat.not_lt_zero _)
  | succ fuel ih =>
    rcases scanTokens_step h with ⟨rfl, all⟩ | ⟨gap, text, t, rest, more, rfl, skip, scans, rfl, later⟩
    · exact all
    · obtain ⟨taken, full, rfl⟩ := scans.suffix
      have positive := List.length_pos_iff.mpr full
      rw [List.length_append, List.length_append] at enough
      exact skip.append (.token scans (ih (by omega) later))

/-- Where the scanner finds a token: in front of it are as many characters as its column says, with the
tokens before it, and behind it are those after it. -/
lemma scanTokens_at {column fuel at_ : Nat} {cs : List Char} {before after : List Located} {t : Token}
    (enough : cs.length < fuel) (h : scanTokens column cs fuel = .ok (before ++ ⟨t, at_⟩ :: after)) :
    ∃ front text rest, cs = front ++ text ∧ at_ = column + front.length ∧
      Lexes cs (before.map (·.token)) text ∧ Scans text t rest ∧
        Lexes rest (after.map (·.token)) [] := by
  induction fuel generalizing column cs before with
  | zero => exact absurd enough (Nat.not_lt_zero _)
  | succ fuel ih =>
    rcases scanTokens_step h
      with ⟨nothing, _⟩ | ⟨gap, text, t', rest, more, rfl, skip, scans, same, later⟩
    · simp at nothing
    · obtain ⟨taken, full, rfl⟩ := scans.suffix
      have positive := List.length_pos_iff.mpr full
      rw [List.length_append, List.length_append] at enough
      have room : rest.length < fuel := by omega
      cases before with
      | nil =>
        rw [List.nil_append, List.cons.injEq, Located.mk.injEq] at same
        obtain ⟨⟨rfl, rfl⟩, rfl⟩ := same
        exact ⟨gap, taken ++ rest, rest, rfl, rfl, skip, scans, lexes_of_scanTokens room later⟩
      | cons first before =>
        rw [List.cons_append, List.cons.injEq] at same
        obtain ⟨rfl, rfl⟩ := same
        obtain ⟨front, text, rest', rfl, rfl, lexed, scans', behind⟩ := ih room later
        refine ⟨gap ++ (taken ++ front), text, rest', ?_, ?_, skip.append (.token scans lexed),
          scans', behind⟩
        · simp only [List.append_assoc]
        · simp only [List.length_append]
          omega

lemma scanTokens_of_lexes {cs : List Char} {ts : List Token} (lexes : Lexes cs ts []) {fuel : Nat}
    (enough : cs.length < fuel) (column : Nat) :
    ∃ found, scanTokens column cs fuel = .ok found ∧ found.map (·.token) = ts := by
  induction fuel generalizing cs ts column with
  | zero => exact absurd enough (Nat.not_lt_zero _)
  | succ fuel ih =>
    have shorter := (List.dropWhile_sublist isBlank (l := cs)).length_le
    have text := lexes.skip
    unfold scanTokens
    cases head : cs.dropWhile isBlank with
    | nil =>
      rw [head] at text
      cases text with
      | done => exact ⟨[], rfl, rfl⟩
      | token scans _ =>
        obtain ⟨taken, full, nothing⟩ := scans.suffix
        exact absurd (List.append_eq_nil_iff.mp nothing.symm).1 full
    | cons c after =>
      rw [head] at text shorter
      have visible : isBlank c = false := by
        have first := List.head?_dropWhile_not isBlank cs
        rw [head] at first
        simpa using first
      cases text with
      | blank blank _ =>
        rw [visible] at blank
        cases blank
      | @token _ t rest ts _ scans later =>
        have room : rest.length < fuel := by
          obtain ⟨taken, full, same⟩ := scans.suffix
          have positive := List.length_pos_iff.mpr full
          rw [same, List.length_append] at shorter
          omega
        obtain ⟨more, scanned, same⟩ := ih later room
          (column + (cs.length - (c :: after).length) + ((c :: after).length - rest.length))
        refine ⟨⟨t, column + (cs.length - (c :: after).length)⟩ :: more, ?_, ?_⟩
        · simp only [scanToken_of_scans scans, scanned]
          rfl
        · simp only [List.map_cons, same]

/-- The tokens of a fragment are those of its text. -/
lemma tokens_iff_lexes {cs : List Char} {ts : List Token} :
    (∃ found, tokens cs = .ok found ∧ found.map (·.token) = ts) ↔ Lexes cs ts [] := by
  constructor
  · rintro ⟨found, scanned, rfl⟩
    exact lexes_of_scanTokens (Nat.lt_succ_self _) scanned
  · intro lexes
    exact scanTokens_of_lexes lexes (Nat.lt_succ_self _) 0

/-- A text has only one list of tokens. -/
lemma Lexes.unique {cs : List Char} {ts us : List Token} (first : Lexes cs ts [])
    (second : Lexes cs us []) : ts = us := by
  obtain ⟨found, scanned, rfl⟩ := tokens_iff_lexes.mpr first
  obtain ⟨found', scanned', rfl⟩ := tokens_iff_lexes.mpr second
  rw [scanned] at scanned'
  cases scanned'
  rfl

section Trim

/-- Whether a text does not end in white space. -/
def EndsVisible (cs : List Char) : Prop :=
  ∀ c, cs.getLast? = some c → isBlank c = false

lemma trimEnd_append (cs : List Char) : ∃ gap, (∀ c ∈ gap, isBlank c) ∧ cs = trimEnd cs ++ gap := by
  refine ⟨(cs.reverse.takeWhile isBlank).reverse, ?_, ?_⟩
  · intro c member
    exact List.all_eq_true.mp List.all_takeWhile c (List.mem_reverse.mp member)
  · rw [trimEnd, dropEndWhile, ← List.reverse_append, List.takeWhile_append_dropWhile,
      List.reverse_reverse]

lemma Lexes.of_trim {cs : List Char} {ts : List Token} (h : Lexes (trim cs) ts []) :
    Lexes cs ts [] := by
  obtain ⟨gap, blank, split⟩ := trimEnd_append (cs.dropWhile isBlank)
  have spaced : Spaced gap := fun c head => blank c (List.mem_of_head? head)
  have started : Lexes (cs.dropWhile isBlank) ts [] := by
    have extended := (show Lexes (trimEnd (cs.dropWhile isBlank)) ts [] from h).extend spaced
    rw [← split] at extended
    have behind := Lexes.blanks blank []
    rw [List.append_nil] at behind
    have whole := extended.append behind
    rwa [List.append_nil] at whole
  have front : ∀ c ∈ cs.takeWhile isBlank, isBlank c := List.all_eq_true.mp List.all_takeWhile
  have whole := (Lexes.blanks front (cs.dropWhile isBlank)).append started
  rwa [List.takeWhile_append_dropWhile, List.nil_append] at whole

/-- A trimmed text does not end in white space. -/
lemma last_of_trim {cs front rest : List Char} (split : trim cs = front ++ rest) : EndsVisible rest := by
  intro c found
  have behind : (trim cs).getLast? = some c := by
    rw [split, List.getLast?_append, found]
    rfl
  rw [trim, stripWhile, dropEndWhile, List.getLast?_reverse] at behind
  have first := List.head?_dropWhile_not isBlank (cs.dropWhile isBlank).reverse
  rw [behind] at first
  simpa using first

lemma trimEnd_of_last {cs : List Char} (last : EndsVisible cs) : trimEnd cs = cs := by
  rw [trimEnd, dropEndWhile]
  cases reversed : cs.reverse with
  | nil => exact (List.reverse_eq_nil_iff.mp reversed).symm
  | cons c before =>
    have found : cs.getLast? = some c := by rw [← List.head?_reverse, reversed]; rfl
    rw [List.dropWhile_cons_of_neg (by rw [last c found]; nofun), ← reversed, List.reverse_reverse]

lemma trim_of_last {cs : List Char} (last : EndsVisible cs) : trim cs = trimStart cs := by
  refine trimEnd_of_last fun c found => last c ?_
  have parts := List.takeWhile_append_dropWhile (p := isBlank) (l := cs)
  rw [← parts, List.getLast?_append, found]
  rfl

/-- What stands at the end of a trimmed text has no white space behind it. -/
lemma trim_of_suffix {cs front rest : List Char} (split : trim cs = front ++ rest) :
    trim rest = rest.dropWhile isBlank :=
  trim_of_last (last_of_trim split)

end Trim

/-- Two texts with an assignment sign and single spaces between them. -/
lemma Lexes.glue {target expr : List Char} {before after : List Token} (op : AssignOp)
    (left : Lexes target before []) (right : Lexes expr after []) :
    Lexes (target ++ ' ' :: (op.symbol.toList ++ ' ' :: expr)) (before ++ .assign op :: after) [] := by
  have spaced (v : List Char) : Spaced (' ' :: v) := by
    intro c head
    cases head
    decide
  have blank : isBlank ' ' := by decide
  exact (left.extend (spaced _)).append
    (.blank blank (.token (.symbol op (spaced expr)) (.blank blank right)))

end BranchingStory.Script
