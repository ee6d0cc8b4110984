import BranchingStory.Proofs.Answer
import BranchingStory.Proofs.Digits
import BranchingStory.Source.Draft

/-!
# Slices of a text

A slice is cut out of a text by the numbers of bytes at which it begins and ends, and there is none if one
of them falls inside a character or behind the end. Where the places of the cuts were found in the text
itself, by going through its characters, both are between characters.
-/

namespace BranchingStory.Source

open Text

variable {cs : List Char}

/-- Whether a number of bytes ends between two characters of a text. -/
def Boundary (n : Nat) (cs : List Char) : Prop :=
  ∃ before behind, cs = before ++ behind ∧ byteLength before = n

/-- The first characters of a text that take so many bytes; none if the cut falls inside a character. -/
def takeBytes : Nat → List Char → Option (List Char)
  | 0, _ => some []
  | _ + 1, [] => none
  | n + 1, c :: cs =>
    if c.utf8Size ≤ n + 1 then (takeBytes (n + 1 - c.utf8Size) cs).map (c :: ·) else none

/-- The text from one number of bytes to another. -/
def slice? (start stop : Nat) (cs : List Char) : Option (List Char) :=
  if start ≤ stop then (Draft.dropBytes start cs).bind (takeBytes (stop - start)) else none

lemma byteLength_append (before behind : List Char) :
    byteLength (before ++ behind) = byteLength before + byteLength behind := by
  induction before with
  | nil => exact (Nat.zero_add _).symm
  | cons c before ih => rw [List.cons_append, byteLength, ih, byteLength, Nat.add_assoc]

/-- A character takes a byte at least, so that cuts behind it go on in the rest. -/
lemma byteLength_cons_eq (c : Char) (cs : List Char) :
    ∃ n, byteLength (c :: cs) = n + 1 ∧ c.utf8Size ≤ n + 1 ∧ n + 1 - c.utf8Size = byteLength cs := by
  have positive : 0 < c.utf8Size := c.utf8Size_pos
  refine ⟨byteLength (c :: cs) - 1, ?_, ?_, ?_⟩ <;> rw [byteLength] <;> omega

lemma dropBytes_append (before behind : List Char) :
    Draft.dropBytes (byteLength before) (before ++ behind) = some behind := by
  induction before with
  | nil => simp only [byteLength, List.nil_append, Draft.dropBytes]
  | cons c before ih =>
    obtain ⟨n, bytes, fits, rest⟩ := byteLength_cons_eq c before
    rw [bytes, List.cons_append, Draft.dropBytes, if_pos fits, rest, ih]

lemma takeBytes_append (before behind : List Char) :
    takeBytes (byteLength before) (before ++ behind) = some before := by
  induction before with
  | nil => simp only [byteLength, takeBytes]
  | cons c before ih =>
    obtain ⟨n, bytes, fits, rest⟩ := byteLength_cons_eq c before
    rw [bytes, List.cons_append, takeBytes, if_pos fits, rest, ih, Option.map_some]

/-- Cutting off bytes leaves what is behind the characters that take them. -/
lemma dropBytes_eq_some {n : Nat} {rest : List Char} :
    Draft.dropBytes n cs = some rest ↔ ∃ before, cs = before ++ rest ∧ byteLength before = n := by
  constructor
  · intro cut
    fun_induction Draft.dropBytes n cs with
    | case1 cs =>
      cases cut
      exact ⟨[], rfl, rfl⟩
    | case2 => cases cut
    | case3 n c cs fits ih =>
      obtain ⟨before, rfl, bytes⟩ := ih cut
      exact ⟨c :: before, rfl, by rw [byteLength, bytes]; omega⟩
    | case4 => cases cut
  · rintro ⟨before, rfl, rfl⟩
    exact dropBytes_append before rest

/-- A cut succeeds between two characters, and nowhere else. -/
lemma isSome_dropBytes {n : Nat} : (Draft.dropBytes n cs).isSome ↔ Boundary n cs := by
  rw [Option.isSome_iff_exists]
  constructor
  · rintro ⟨rest, cut⟩
    obtain ⟨before, same, bytes⟩ := dropBytes_eq_some.mp cut
    exact ⟨before, rest, same, bytes⟩
  · rintro ⟨before, rest, same, bytes⟩
    exact ⟨rest, dropBytes_eq_some.mpr ⟨before, same, bytes⟩⟩

lemma slice?_append (before piece behind : List Char) :
    slice? (byteLength before) (byteLength before + byteLength piece) (before ++ (piece ++ behind)) =
      some piece := by
  unfold slice?
  rw [if_pos (Nat.le_add_right _ _), dropBytes_append, Option.bind_some, Nat.add_sub_cancel_left,
    takeBytes_append]

lemma slice?_front (piece behind : List Char) :
    slice? 0 (byteLength piece) (piece ++ behind) = some piece := by
  have slice := slice?_append [] piece behind
  rwa [List.nil_append, byteLength, Nat.zero_add] at slice

lemma slice?_back (before piece : List Char) :
    slice? (byteLength before) (byteLength (before ++ piece)) (before ++ piece) = some piece := by
  have slice := slice?_append before piece []
  rwa [List.append_nil, ← byteLength_append] at slice

/-! ## Places that are found in a text -/

lemma dropFront?_eq_some {front rest : List Char} :
    dropFront? front cs = some rest ↔ cs = front ++ rest := by
  fun_induction dropFront? front cs with
  | case1 cs => exact ⟨Option.some.inj, congrArg some⟩
  | case2 => exact ⟨nofun, nofun⟩
  | case3 f fs cs ih => rw [ih, List.cons_append, List.cons_inj_right]
  | case4 f fs c cs other => exact ⟨nofun, fun same => absurd (List.cons.inj same).1.symm other⟩

lemma dropFront?_of_head {f c : Char} {fs cs : List Char} (other : f ≠ c) :
    dropFront? (f :: fs) (c :: cs) = none := by
  rw [dropFront?, if_neg other]

lemma dropBack?_eq_some {back rest : List Char} :
    dropBack? back cs = some rest ↔ cs = rest ++ back := by
  unfold dropBack?
  simp only [Option.map_eq_some_iff, dropFront?_eq_some]
  constructor
  · rintro ⟨front, same, rfl⟩
    rw [← List.reverse_reverse cs, same, List.reverse_append, List.reverse_reverse]
  · rintro rfl
    exact ⟨rest.reverse, List.reverse_append, List.reverse_reverse rest⟩

lemma cutAtFrom_split {sep before front behind : List Char}
    (found : cutAtFrom sep before cs = some (front, behind)) :
    before.reverse ++ cs = front ++ (sep ++ behind) := by
  fun_induction cutAtFrom sep before cs with
  | case1 before empty =>
    cases found
    rw [List.isEmpty_iff.mp empty]
    rfl
  | case2 => cases found
  | case3 before c cs rest front =>
    cases found
    rw [dropFront?_eq_some.mp front]
  | case4 before c cs other ih =>
    rw [← ih found, List.reverse_cons, List.append_assoc]
    rfl

/-- A text is cut at a part of it. -/
lemma cutAt?_split {sep front behind : List Char} (found : cutAt? sep cs = some (front, behind)) :
    cs = front ++ (sep ++ behind) :=
  cutAtFrom_split found

/-- What is inside a bracket that is closed, and its end. -/
lemma closeFrom_split {quotes : Bool} {depth : Nat} {quote : Option Char} {before cs inside behind : List Char}
    (found : closeFrom quotes depth quote before cs = some (inside, behind)) :
    ∃ middle closing, inside = before.reverse ++ middle ∧ cs = middle ++ closing :: behind ∧
      isClosing closing := by
  have later {c : Char} {before cs : List Char} (rest : ∃ middle closing,
      inside = (c :: before).reverse ++ middle ∧ cs = middle ++ closing :: behind ∧ isClosing closing) :
      ∃ middle closing, inside = before.reverse ++ middle ∧ c :: cs = middle ++ closing :: behind ∧
        isClosing closing := by
    obtain ⟨middle, closing, rfl, rfl, closes⟩ := rest
    exact ⟨c :: middle, closing, by simp, rfl, closes⟩
  fun_induction closeFrom quotes depth quote before cs with
  | case1 => cases found
  | case2 _ _ _ _ _ ih => exact later (later (ih found))
  | case6 before c cs _ _ closes =>
    cases found
    exact ⟨[], c, by simp, rfl, closes⟩
  | case3 _ _ _ _ _ _ ih | case4 _ _ _ _ _ ih | case5 _ _ _ _ _ _ ih | case7 _ _ _ _ _ _ _ ih
  | case8 _ _ _ _ _ _ _ ih => exact later (ih found)

lemma enclosed?_split {inside behind : List Char} (found : enclosed? cs = some (inside, behind)) :
    ∃ opening closing, cs = opening :: (inside ++ closing :: behind) ∧ isClosing closing := by
  cases cs with
  | nil => cases found
  | cons opening cs =>
    obtain ⟨middle, closing, rfl, rfl, closes⟩ := closeFrom_split found
    exact ⟨opening, closing, rfl, closes⟩

lemma splitFirst?_split {sep : Char} {before behind : List Char}
    (found : splitFirst? sep cs = some (before, behind)) : cs = before ++ sep :: behind := by
  unfold splitFirst? at found
  split at found
  · cases found
  · next c rest same =>
    cases found
    have stop : (c != sep) = false := by
      have head := List.head_dropWhile_not (p := (· != sep)) (l := cs) (by rw [same]; exact nofun)
      simpa only [same, List.head_cons] using head
    obtain rfl : c = sep := by simpa using stop
    rw [← same, List.takeWhile_append_dropWhile]

/-- A text is cut at the first separator. -/
lemma splitFirst?_append {sep : Char} {front : List Char} (apart : ∀ c ∈ front, c ≠ sep) (rest : List Char) :
    splitFirst? sep (front ++ sep :: rest) = some (front, rest) := by
  have ends : EndsRun (· != sep) (sep :: rest) := by
    intro c first
    cases first
    exact bne_self_eq_false sep
  have run : ∀ c ∈ front, c != sep := fun c member => bne_iff_ne.mpr (apart c member)
  rw [splitFirst?, dropWhile_run run ends, takeWhile_run run ends]

lemma splitOutsideFrom_inside {sep : Char} {depth : Int} {quote : Option Char} {open_ cs : List Char} :
    ∀ piece ∈ splitOutsideFrom sep depth quote open_ cs, piece <:+: open_.reverse ++ cs := by
  have later {c : Char} {open_ cs piece : List Char} (inside : piece <:+: (c :: open_).reverse ++ cs) :
      piece <:+: open_.reverse ++ c :: cs := by
    simpa only [List.reverse_cons, List.append_assoc, List.singleton_append] using inside
  fun_induction splitOutsideFrom sep depth quote open_ cs with
  | case1 depth quote open_ =>
    intro piece member
    rw [List.mem_singleton.mp member]
    exact (List.prefix_append _ _).isInfix
  | case2 _ _ _ _ _ ih | case3 _ _ _ _ _ ih | case4 _ _ _ _ _ _ ih | case5 _ _ _ _ _ _ _ ih
  | case7 _ _ _ _ _ _ _ _ ih => exact fun piece member => later (ih piece member)
  | case6 depth open_ c cs _ _ _ _ ih =>
    intro piece member
    rcases List.mem_cons.mp member with rfl | behind
    · exact (List.prefix_append _ _).isInfix
    · exact (ih piece behind).trans ((List.suffix_cons c cs).trans (List.suffix_append _ _)).isInfix

/-- The tags at the end of a text and the text in front of them; all of it is given backwards. -/
lemma splitTagsBack_ok {text rest : List Char} {tags tags' : List String}
    (split : splitTagsBack text tags = .ok (rest, tags')) :
    rest <:+ text ∧ ∀ tag ∈ tags', tag ∈ tags ∨ ('^' :: tag.toList).reverse <:+: text := by
  fun_induction splitTagsBack text tags with
  | case1 text tags tag found _ ih =>
    obtain ⟨inRest, known⟩ := ih split
    have behind : (text.dropWhile (!isBlank ·)).dropWhile isBlank <:+ text :=
      (List.dropWhile_suffix _).trans (List.dropWhile_suffix _)
    refine ⟨inRest.trans behind, ?_⟩
    intro other member
    rcases known other member with here | inside
    · rcases List.mem_cons.mp here with rfl | before
      · right
        rw [String.toList_ofList, ← found, List.reverse_reverse]
        exact (List.takeWhile_prefix _).isInfix
      · exact .inl before
    · exact .inr (inside.trans behind.isInfix)
  | case2 => cases split
  | case3 =>
    cases split
    exact ⟨List.suffix_refl _, fun tag member => .inl member⟩

lemma trimEnd_front (cs : List Char) : trimEnd cs <+: cs := by
  unfold trimEnd dropEndWhile
  rw [← List.reverse_suffix, List.reverse_reverse]
  exact List.dropWhile_suffix _

lemma splitTags_ok {rest : List Char} {tags : List String} (split : splitTags cs = .ok (rest, tags)) :
    rest <+: cs ∧ ∀ tag ∈ tags, '^' :: tag.toList <:+: cs := by
  unfold splitTags at split
  obtain ⟨⟨back, tags'⟩, taken, same⟩ := map_eq_ok.mp split
  cases same
  obtain ⟨inRest, known⟩ := splitTagsBack_ok taken
  constructor
  · rw [← List.reverse_prefix, List.reverse_reverse] at inRest
    exact inRest.trans (trimEnd_front cs)
  · intro tag member
    have inside := (known tag member).resolve_left List.not_mem_nil
    rw [List.reverse_infix] at inside
    exact inside.trans (trimEnd_front cs).isInfix

lemma directiveWord_front (cs : List Char) : Draft.directiveWord cs <+: cs := by
  have rest : (cs.drop 1).takeWhile isWordChar <+: cs.drop 1 := List.takeWhile_prefix _
  have whole := (List.prefix_append_right_inj (cs.take 1)).mpr rest
  rwa [List.take_append_drop] at whole

lemma slice?_inside {piece : List Char} (inside : piece <:+: cs) :
    ∃ start, slice? start (start + byteLength piece) cs = some piece := by
  obtain ⟨before, behind, rfl⟩ := inside
  rw [List.append_assoc]
  exact ⟨_, slice?_append before piece behind⟩

lemma slice?_of_front {piece : List Char} (front : piece <+: cs) :
    slice? 0 (byteLength piece) cs = some piece ∧
      slice? (byteLength piece) (byteLength cs) cs = some (cs.drop piece.length) := by
  obtain ⟨behind, rfl⟩ := front
  rw [List.drop_left]
  exact ⟨slice?_front piece behind, slice?_back piece behind⟩

/-- What stands between two characters of one byte each, the first one in front, and what is behind. -/
lemma slice?_between {first last : Char} {inside behind : List Char} (narrow : first.utf8Size = 1)
    (narrow' : last.utf8Size = 1) (split : cs = first :: (inside ++ last :: behind)) :
    slice? 1 (1 + byteLength inside) cs = some inside ∧
      slice? (byteLength inside + 2) (byteLength cs) cs = some behind := by
  subst split
  constructor
  · have slice := slice?_append [first] inside (last :: behind)
    rwa [byteLength, byteLength, narrow] at slice
  · have slice := slice?_back (first :: (inside ++ [last])) behind
    have bytes : byteLength (first :: (inside ++ [last])) = byteLength inside + 2 := by
      simp only [byteLength, byteLength_append, narrow, narrow']
      omega
    rwa [bytes, List.cons_append, List.append_assoc, List.singleton_append] at slice

/-- What scanners give are slices of the text that they scan, cut at the places that they found: words,
what is behind a mark, both sides of a separator, insides of brackets and quotes, the pieces between
separators outside of brackets, tags, and the name of a directive. -/
structure CutsWhole (cs : List Char) : Prop where
  word (p : Char → Bool) :
    slice? 0 (byteLength (cs.takeWhile p)) cs = some (cs.takeWhile p) ∧
      slice? (byteLength (cs.takeWhile p)) (byteLength cs) cs = some (cs.dropWhile p)
  mark {front rest : List Char} :
    dropFront? front cs = some rest →
    slice? (byteLength front) (byteLength cs) cs = some rest
  separator {sep : Char} {before behind : List Char} :
    splitFirst? sep cs = some (before, behind) →
    slice? 0 (byteLength before) cs = some before ∧
      slice? (byteLength before + sep.utf8Size) (byteLength cs) cs = some behind
  bracket {inside behind : List Char} :
    cs.head?.any isOpening →
    enclosed? cs = some (inside, behind) →
    slice? 1 (1 + byteLength inside) cs = some inside ∧
      slice? (byteLength inside + 2) (byteLength cs) cs = some behind
  quoted {key : String} {value behind : List Char} :
    readQuoted key cs = .ok (value, behind) →
    slice? 1 (1 + byteLength value) cs = some value ∧
      slice? (byteLength value + 2) (byteLength cs) cs = some behind
  pieces (sep : Char) :
    ∀ piece ∈ splitOutside sep cs, ∃ start, slice? start (start + byteLength piece) cs = some piece
  tags {rest : List Char} {tags : List String} :
    splitTags cs = .ok (rest, tags) →
    slice? 0 (byteLength rest) cs = some rest ∧
      ∀ tag ∈ tags, ∃ start,
        slice? start (start + byteLength ('^' :: tag.toList)) cs = some ('^' :: tag.toList)
  directive :
    slice? 0 (byteLength (Draft.directiveWord cs)) cs = some (Draft.directiveWord cs) ∧
      slice? (byteLength (Draft.directiveWord cs)) (byteLength cs) cs =
        some (cs.drop (Draft.directiveWord cs).length)

lemma isOpening_narrow {c : Char} (opens : isOpening c) : c.utf8Size = 1 := by
  simp only [isOpening, Bool.or_eq_true, beq_iff_eq] at opens
  rcases opens with (rfl | rfl) | rfl <;> rfl

lemma isClosing_narrow {c : Char} (closes : isClosing c) : c.utf8Size = 1 := by
  simp only [isClosing, Bool.or_eq_true, beq_iff_eq] at closes
  rcases closes with (rfl | rfl) | rfl <;> rfl

lemma isQuote_narrow {c : Char} (quotes : isQuote c) : c.utf8Size = 1 := by
  simp only [isQuote, Bool.or_eq_true, beq_iff_eq] at quotes
  rcases quotes with rfl | rfl <;> rfl

/-- No scanner cuts inside a character. -/
theorem cutsWhole (cs : List Char) : CutsWhole cs := by
  constructor
  case word =>
    intro p
    have slices := And.intro (slice?_front (cs.takeWhile p) (cs.dropWhile p))
      (slice?_back (cs.takeWhile p) (cs.dropWhile p))
    rwa [List.takeWhile_append_dropWhile] at slices
  case mark =>
    intro front rest found
    rw [dropFront?_eq_some] at found
    rw [found]
    exact slice?_back front rest
  case separator =>
    intro sep before behind found
    rw [splitFirst?_split found]
    refine ⟨slice?_front before _, ?_⟩
    have slice := slice?_back (before ++ [sep]) behind
    have bytes : byteLength (before ++ [sep]) = byteLength before + sep.utf8Size := by
      rw [byteLength_append, byteLength, byteLength, Nat.add_zero]
    rwa [bytes, List.append_assoc, List.singleton_append] at slice
  case bracket =>
    intro inside behind opens found
    obtain ⟨opening, closing, rfl, closes⟩ := enclosed?_split found
    exact slice?_between (isOpening_narrow opens) (isClosing_narrow closes) rfl
  case quoted =>
    intro key value behind read
    unfold readQuoted at read
    split at read
    · cases read
    · next quote rest =>
      split at read
      · next quotes =>
        split at read
        · next parts found =>
          cases read
          rw [splitFirst?_split found]
          exact slice?_between (isQuote_narrow quotes) (isQuote_narrow quotes) rfl
        · cases read
      · cases read
  case pieces =>
    intro sep piece member
    exact slice?_inside (splitOutsideFrom_inside piece member)
  case tags =>
    intro rest tags split
    obtain ⟨front, inside⟩ := splitTags_ok split
    exact ⟨(slice?_of_front front).1, fun tag member => slice?_inside (inside tag member)⟩
  case directive => exact slice?_of_front (directiveWord_front cs)

end BranchingStory.Source
