import BranchingStory.Proofs.Source.Layout

/-!
# Bodies that stand deeper

A body that is read without the indentation of its own first line may stand as deep as it likes: lines that
stand deeper are nodes that stand deeper, and these make the same content.
-/

namespace BranchingStory.Source

open Text

mutual

/-- A node whose lines of text stand deeper by a number of spaces. -/
def Node.deeper (k : Nat) : Node → Node
  | .text text => .text (List.replicate k ' ' ++ text)
  | .adds entry => .adds entry
  | .cond limbs otherwise? => .cond (deeperLimbs k limbs) (deeperLast k otherwise?)
  | .loop vars collection body => .loop vars collection (deeperNodes k body)

def deeperNodes (k : Nat) : List Node → List Node
  | [] => []
  | n :: ns => n.deeper k :: deeperNodes k ns

def deeperLimbs (k : Nat) : List Limb → List Limb
  | [] => []
  | .mk condition body :: limbs => .mk condition (deeperNodes k body) :: deeperLimbs k limbs

def deeperLast (k : Nat) : Option (List Node) → Option (List Node)
  | none => none
  | some body => some (deeperNodes k body)

end

/-- Whether a block is another one with a body in the place of one of its own. -/
inductive InPlace : Node → List Node → Node → List Node → Prop where
  | loop {vars collection body body'} :
    InPlace (.loop vars collection body) body (.loop vars collection body') body'
  | limb {front condition body body' back otherwise?} :
    InPlace (.cond (front ++ ⟨condition, body⟩ :: back) otherwise?) body
      (.cond (front ++ ⟨condition, body'⟩ :: back) otherwise?) body'
  | last {limbs body body'} :
    InPlace (.cond limbs (some body)) body (.cond limbs (some body')) body'

/-- Whether nodes are others of which one body, at any depth, stands deeper by a number of spaces. -/
inductive Deepened (k : Nat) : List Node → List Node → Prop where
  | here {before n body n' behind} :
    InPlace n body n' (deeperNodes k body) →
    Deepened k (before ++ n :: behind) (before ++ n' :: behind)
  | inside {before n body n' body' behind} :
    InPlace n body n' body' →
    Deepened k body body' →
    Deepened k (before ++ n :: behind) (before ++ n' :: behind)

section Deeper

variable {k : Nat} {text : List Char} {n n' : Node} {body body' : List Node}

lemma leading_deeper (k : Nat) (text : List Char) :
    leading (List.replicate k ' ' ++ text) = leading text + k := by
  rw [leading, indentation, List.takeWhile_append_of_pos blank_of_replicate, byteLength_append,
    byteLength_replicate, Nat.add_comm]
  rfl

lemma isVisible_deeper (k : Nat) (text : List Char) :
    isVisible (List.replicate k ' ' ++ text) = isVisible text :=
  isVisible_blanks blank_of_replicate text

lemma beyond_deeper {outer outer' : Nat} (same : isVisible text → outer' = outer + k) :
    beyond outer' (List.replicate k ' ' ++ text) = beyond outer text := by
  have rest : trimStart (List.replicate k ' ' ++ text) = trimStart text :=
    List.dropWhile_append_of_pos blank_of_replicate
  rw [beyond, beyond, rest, leading_deeper]
  cases shown : isVisible text with
  | true => rw [same shown, Nat.add_sub_add_right]
  | false =>
    have hidden (m : Nat) : isVisible (List.replicate m ' ' ++ trimStart text) = false :=
      (isVisible_beyond m text).trans shown
    rw [textItems_hidden (hidden _), textItems_hidden (hidden _)]

lemma texts_deeper (k : Nat) (ns : List Node) :
    texts (deeperNodes k ns) = (texts ns).map (List.replicate k ' ' ++ ·) := by
  induction ns with
  | nil => rfl
  | cons n ns ih =>
    cases n with
    | text text => exact congrArg (List.cons _) ih
    | _ => exact ih

lemma bodyLead_deeper {text : List Char} (member : text ∈ texts body) (shown : isVisible text) :
    bodyLead (deeperNodes k body) = bodyLead body + k := by
  have same : isVisible ∘ (List.replicate k ' ' ++ ·) = isVisible := funext (isVisible_deeper k)
  rw [bodyLead, texts_deeper, List.filter_map, same, bodyLead]
  cases first : (texts body).filter isVisible with
  | nil => exact absurd (List.mem_filter.mpr ⟨member, shown⟩) (first ▸ List.not_mem_nil)
  | cons text more => exact leading_deeper k text

mutual

/-- What stands deeper, in a body that stands deeper by as much, is the same. -/
theorem Node.laid_deeper (id : String) (k : Nat) : (n : Node) → (outer outer' count : Nat) →
    (∀ text ∈ texts [n], isVisible text → outer' = outer + k) →
    (n.deeper k).laid id outer' count = n.laid id outer count
  | .text text, outer, outer', count, same =>
    congrArg (·, count) (beyond_deeper (same text List.mem_cons_self))
  | .adds (.items _), _, _, _, _ => rfl
  | .adds (.command _), _, _, _, _ => rfl
  | .adds (.choice _), _, _, _, _ => rfl
  | .cond limbs otherwise?, outer, outer', count, _ => by
    simp only [Node.deeper, Node.laid, laidBranches_deeper id k limbs, laidLast_deeper id k otherwise?]
  | .loop vars collection body, outer, outer', count, _ => by
    simp only [Node.deeper, Node.laid, laidNodes_deeper id k body _ _ count fun _ => bodyLead_deeper]

theorem laidNodes_deeper (id : String) (k : Nat) : (ns : List Node) → (outer outer' count : Nat) →
    (∀ text ∈ texts ns, isVisible text → outer' = outer + k) →
    laidNodes id outer' count (deeperNodes k ns) = laidNodes id outer count ns
  | [], _, _, _, _ => rfl
  | n :: ns, outer, outer', count, same => by
    rw [show texts (n :: ns) = texts [n] ++ texts ns from texts_append [n] ns] at same
    obtain ⟨here, behind⟩ := List.forall_mem_append.mp same
    simp only [deeperNodes, laidNodes, n.laid_deeper id k outer outer' count here,
      laidNodes_deeper id k ns outer outer' _ behind]

theorem laidBranches_deeper (id : String) (k : Nat) : (limbs : List Limb) → (count : Nat) →
    laidBranches id count (deeperLimbs k limbs) = laidBranches id count limbs
  | [], _ => rfl
  | .mk condition body :: limbs, count => by
    simp only [deeperLimbs, laidBranches, laidNodes_deeper id k body _ _ count fun _ => bodyLead_deeper,
      laidBranches_deeper id k limbs]

theorem laidLast_deeper (id : String) (k : Nat) : (otherwise? : Option (List Node)) → (count : Nat) →
    laidLast id count (deeperLast k otherwise?) = laidLast id count otherwise?
  | none, _ => rfl
  | some body, count => by
    simp only [deeperLast, laidLast, laidNodes_deeper id k body _ _ count fun _ => bodyLead_deeper]

end

/-- Whether two bodies make the same content. -/
def SameLayout (id : String) (body body' : List Node) : Prop :=
  ∀ count, laidNodes id (bodyLead body') count body' = laidNodes id (bodyLead body) count body

lemma laidBranches_inPlace {id : String} (same : SameLayout id body body') (front back : List Limb)
    (condition : String) (count : Nat) :
    laidBranches id count (front ++ ⟨condition, body'⟩ :: back) =
      laidBranches id count (front ++ ⟨condition, body⟩ :: back) := by
  induction front generalizing count with
  | nil => simp only [List.nil_append, laidBranches, same count]
  | cons limb front ih =>
    obtain ⟨other, first⟩ := limb
    simp only [List.cons_append, laidBranches, ih]

lemma InPlace.laid {id : String} (place : InPlace n body n' body') (same : SameLayout id body body')
    (outer count : Nat) : n'.laid id outer count = n.laid id outer count := by
  cases place with
  | loop => simp only [Node.laid, same count]
  | limb => simp only [Node.laid, laidBranches_inPlace same]
  | last => simp only [Node.laid, laidLast, same _]

lemma InPlace.texts (place : InPlace n body n' body') (before behind : List Node) :
    texts (before ++ n' :: behind) = texts (before ++ n :: behind) := by
  rw [texts_append, texts_append]
  cases place <;> rfl

lemma laidNodes_inPlace {id : String} (place : InPlace n body n' body') (same : SameLayout id body body')
    (before behind : List Node) (outer count : Nat) :
    laidNodes id outer count (before ++ n' :: behind) = laidNodes id outer count (before ++ n :: behind) := by
  induction before generalizing count with
  | nil => simp only [List.nil_append, laidNodes, place.laid same]
  | cons first before ih => simp only [List.cons_append, laidNodes, ih]

lemma sameLayout_deeper (id : String) (k : Nat) (body : List Node) :
    SameLayout id body (deeperNodes k body) :=
  fun count => laidNodes_deeper id k body _ _ count fun _ => bodyLead_deeper

/-- A body in which another one stands deeper makes the same content. -/
lemma Deepened.sameLayout {id : String} {ns ns' : List Node} (deepened : Deepened k ns ns') :
    SameLayout id ns ns' := by
  induction deepened with
  | @here before n body n' behind place =>
    intro count
    rw [bodyLead, place.texts before behind]
    exact laidNodes_inPlace place (sameLayout_deeper id k body) before behind _ count
  | @inside before n body n' body' behind place _ ih =>
    intro count
    rw [bodyLead, place.texts before behind]
    exact laidNodes_inPlace place ih before behind _ count

lemma InPlace.layNode (place : InPlace n body n' body') (same : ∀ id, SameLayout id body body')
    (s : Passage × Nat) : layNode s n' = layNode s n := by
  have laid := place.laid (same s.1.id) 0 s.2
  cases place <;> simp only [Source.layNode, laid]

/-- So does a passage. -/
lemma Deepened.foldl_layNode {ns ns' : List Node} (deepened : Deepened k ns ns') (s : Passage × Nat) :
    ns'.foldl layNode s = ns.foldl layNode s := by
  cases deepened with
  | @here before n body n' behind place =>
    rw [List.foldl_append, List.foldl_append, List.foldl_cons, List.foldl_cons,
      place.layNode fun id => sameLayout_deeper id k body]
  | inside place within =>
    rw [List.foldl_append, List.foldl_append, List.foldl_cons, List.foldl_cons,
      place.layNode fun _ => within.sameLayout]

end Deeper

/-! ## Lines that stand deeper -/

/-- A line that stands deeper by a number of spaces. -/
def SourceLine.deeper (k : Nat) (l : SourceLine) : SourceLine :=
  { l with text := List.replicate k ' ' ++ l.text }

section Moved

variable {k : Nat}

lemma readTextLine_deeper (k : Nat) (text : List Char) :
    (readTextLine (List.replicate k ' ' ++ text)).toOption.isSome = (readTextLine text).toOption.isSome := by
  rw [Bool.eq_iff_iff, Option.isSome_iff_exists, Option.isSome_iff_exists]
  simp only [toOption_eq_some]
  induction k with
  | zero => rfl
  | succ k ih =>
    rw [List.replicate_succ, List.cons_append, readTextLine_blank rfl]
    exact ih

lemma role?_deeper (k : Nat) (l : SourceLine) : (l.deeper k).role? = l.role? := by
  have trimmed : trim (l.deeper k).text = trim l.text := by
    rw [trim, stripWhile, SourceLine.deeper, List.dropWhile_append_of_pos blank_of_replicate]
    rfl
  have apart : (l.deeper k).isApart = l.isApart := by
    rw [SourceLine.isApart, SourceLine.isApart, trimmed]
  have text : (readTextLine (l.deeper k).text).toOption.map (fun _ => Role.text) =
      (readTextLine l.text).toOption.map fun _ => Role.text := by
    have same : (readTextLine (l.deeper k).text).toOption.isSome = _ := readTextLine_deeper k l.text
    cases before : (readTextLine l.text).toOption <;>
      cases after : (readTextLine (l.deeper k).text).toOption <;>
        first | rfl | (rw [before, after] at same; cases same)
  unfold SourceLine.role?
  simp only [trimmed, apart, text]
  rfl

lemma deeperLimbs_append (k : Nat) (limbs more : List Limb) :
    deeperLimbs k (limbs ++ more) = deeperLimbs k limbs ++ deeperLimbs k more := by
  induction limbs with
  | nil => rfl
  | cons limb limbs ih =>
    obtain ⟨condition, body⟩ := limb
    exact congrArg (List.cons _) ih

mutual

/-- Lines that stand deeper are nodes that stand deeper. -/
theorem Body.deeper {ls : List SourceLine} {ns : List Node} (k : Nat) :
    Body ls ns → Body (ls.map (·.deeper k)) (deeperNodes k ns)
  | .nil => .nil
  | .text valid more => .text ((role?_deeper k _).trans valid) (more.deeper k)
  | .adds valid more => .adds ((role?_deeper k _).trans valid) (more.deeper k)
  | .cond inner closes more => by
    rw [List.map_append]
    exact .cond (inner.deeper k) ((role?_deeper k _).trans closes) (more.deeper k)
  | .loop opens inner closes more => by
    rw [List.map_append]
    exact .loop ((role?_deeper k _).trans opens) (inner.deeper k) ((role?_deeper k _).trans closes)
      (more.deeper k)

theorem Cond.deeper {ls : List SourceLine} {limbs : List Limb} {otherwise? : Option (List Node)} (k : Nat) :
    Cond ls limbs otherwise? → Cond (ls.map (·.deeper k)) (deeperLimbs k limbs) (deeperLast k otherwise?)
  | .first opens inner => .first ((role?_deeper k _).trans opens) (inner.deeper k)
  | .elif before opens inner => by
    rw [List.map_append, deeperLimbs_append]
    exact .elif (before.deeper k) ((role?_deeper k _).trans opens) (inner.deeper k)
  | .otherwise before opens inner => by
    rw [List.map_append]
    exact .otherwise (before.deeper k) ((role?_deeper k _).trans opens) (inner.deeper k)

end

end Moved

/-! ## The lines of a body -/

section InLines

variable {ls : List SourceLine} {n n' : Node} {body body' ns more before behind : List Node}

/-- The lines of nodes in a row are the lines of each in a row. -/
lemma Body.split (ns : List Node) (whole : Body ls (ns ++ more)) :
    ∃ front back, ls = front ++ back ∧ Body front ns ∧ Body back more := by
  induction ns generalizing ls with
  | nil => exact ⟨[], ls, rfl, .nil, whole⟩
  | cons n ns ih =>
    cases whole with
    | text valid rest =>
      obtain ⟨front, back, rfl, first, last⟩ := ih rest
      exact ⟨_ :: front, back, rfl, .text valid first, last⟩
    | adds valid rest =>
      obtain ⟨front, back, rfl, first, last⟩ := ih rest
      exact ⟨_ :: front, back, rfl, .adds valid first, last⟩
    | @cond block _ _ closer _ _ inner closes rest =>
      obtain ⟨front, back, rfl, first, last⟩ := ih rest
      exact ⟨block ++ closer :: front, back, by simp, .cond inner closes first, last⟩
    | @loop opener _ _ inner _ closer _ _ opens inside closes rest =>
      obtain ⟨front, back, rfl, first, last⟩ := ih rest
      exact ⟨opener :: inner ++ closer :: front, back, by simp, .loop opens inside closes first, last⟩

/-- Whether lines are those of a body within others, which with any lines of another body in their place are
the lines of something else. -/
def HasBody (ls : List SourceLine) (body body' : List Node) (Whole : List SourceLine → Prop) : Prop :=
  ∃ front inner back, ls = front ++ inner ++ back ∧ Body inner body ∧
    ∀ inner', Body inner' body' → Whole (front ++ inner' ++ back)

/-- What stands around the lines of a whole stands around the lines of the body in it. -/
lemma HasBody.within {Whole Whole' : List SourceLine → Prop} (known : HasBody ls body body' Whole)
    (before behind : List SourceLine) (outer : ∀ ms, Whole ms → Whole' (before ++ ms ++ behind)) :
    HasBody (before ++ ls ++ behind) body body' Whole' := by
  obtain ⟨front, inner, back, rfl, inside, whole⟩ := known
  refine ⟨before ++ front, inner, back ++ behind, by simp only [List.append_assoc], inside, ?_⟩
  intro inner' inside'
  have := outer _ (whole inner' inside')
  simpa only [List.append_assoc] using this

/-- A branch of a conditional is a body in its lines. -/
theorem Cond.hasBody {ls : List SourceLine} {limbs : List Limb} {otherwise? : Option (List Node)}
    {front back : List Limb} {condition : String} (cond : Cond ls limbs otherwise?)
    (place : limbs = front ++ ⟨condition, body⟩ :: back) :
    HasBody ls body body' (Cond · (front ++ ⟨condition, body'⟩ :: back) otherwise?) := by
  match cond with
  | @Cond.first opener _ inner _ opens inside =>
    obtain ⟨rfl, same⟩ | ⟨_, none⟩ := List.singleton_eq_append_iff.mp place
    · cases same
      refine ⟨[opener], inner, [], (List.append_nil _).symm, inside, fun inner' inside' => ?_⟩
      rw [List.append_nil]
      exact .first opens inside'
    · cases none
  | @Cond.elif block _ l _ inner _ before opens inside =>
    -- the branch that was read last is this one, or stands behind it
    rcases back.eq_nil_or_concat with rfl | ⟨back, last, rfl⟩
    · obtain ⟨rfl, same⟩ := List.append_inj' place rfl
      cases same
      refine ⟨block ++ [l], inner, [], ?_, inside, fun inner' inside' => ?_⟩
      · rw [List.append_nil, List.append_assoc, List.singleton_append]
      · rw [List.append_nil, List.append_assoc, List.singleton_append]
        exact .elif before opens inside'
    · rw [List.concat_eq_append] at place ⊢
      rw [← List.cons_append, ← List.append_assoc] at place
      obtain ⟨limbs, same⟩ := List.append_inj' place rfl
      cases same
      rw [← List.cons_append, ← List.append_assoc]
      exact (before.hasBody limbs).within [] (l :: inner) fun ms whole => .elif whole opens inside
  | @Cond.otherwise _ _ l inner _ before opens inside =>
    exact (before.hasBody place).within [] (l :: inner) fun ms whole => .otherwise whole opens inside

/-- So is what stands behind `@else`. -/
lemma Cond.hasBody_last {limbs : List Limb} (cond : Cond ls limbs (some body)) :
    HasBody ls body body' (Cond · limbs (some body')) := by
  cases cond with
  | @otherwise block _ l inner _ before opens inside =>
    refine ⟨block ++ [l], inner, [], ?_, inside, fun inner' inside' => ?_⟩
    · rw [List.append_nil, List.append_assoc, List.singleton_append]
    · rw [List.append_nil, List.append_assoc, List.singleton_append]
      exact .otherwise before opens inside'

/-- A body within a block is a body in the lines around the block. -/
lemma InPlace.hasBody (place : InPlace n body n' body') (whole : Body ls (before ++ n :: behind)) :
    HasBody ls body body' (Body · (before ++ n' :: behind)) := by
  obtain ⟨front, back, rfl, first, last⟩ := whole.split before
  cases place with
  | loop =>
    cases last with
    | @loop opener _ _ inner _ closer rest _ opens inside closes more =>
      refine ⟨front ++ [opener], inner, closer :: rest, ?_, inside, fun inner' inside' => ?_⟩
      · simp only [List.append_assoc, List.cons_append, List.nil_append]
      · simp only [List.append_assoc, List.singleton_append]
        exact first.append (.loop opens inside' closes more)
  | limb =>
    cases last with
    | @cond block _ _ closer rest _ cond closes more =>
      rw [← List.append_assoc]
      refine (cond.hasBody rfl).within front (closer :: rest) fun ms whole => ?_
      rw [List.append_assoc]
      exact first.append (.cond whole closes more)
  | last =>
    cases last with
    | @cond block _ _ closer rest _ cond closes more =>
      rw [← List.append_assoc]
      refine cond.hasBody_last.within front (closer :: rest) fun ms whole => ?_
      rw [List.append_assoc]
      exact first.append (.cond whole closes more)

/-- Where nodes are others with a body that stands deeper, so are their lines. -/
theorem Deepened.lines {k : Nat} {ns ns' : List Node} (deepened : Deepened k ns ns')
    {ls : List SourceLine} (whole : Body ls ns) :
    ∃ front inner back body, ls = front ++ inner ++ back ∧ Body inner body ∧
      Body (front ++ inner.map (·.deeper k) ++ back) ns' := by
  -- on where the body stands: the lines of a body within one are between those around this one
  induction deepened generalizing ls with
  | here place =>
    obtain ⟨front, inner, back, rfl, inside, outer⟩ := place.hasBody whole
    exact ⟨front, inner, back, _, rfl, inside, outer _ (inside.deeper k)⟩
  | inside place _ ih =>
    obtain ⟨front, inner, back, rfl, inside, outer⟩ := place.hasBody whole
    obtain ⟨front', inner', back', body, rfl, inside', deeper⟩ := ih inside
    refine ⟨front ++ front', inner', back' ++ back, body, by simp only [List.append_assoc], inside', ?_⟩
    have whole' := outer _ deeper
    simp only [List.append_assoc] at whole' ⊢
    exact whole'

end InLines

lemma IsSpaced.deeper {text : List Char} (spaced : IsSpaced text) (k : Nat) :
    IsSpaced (List.replicate k ' ' ++ text) := by
  intro c member
  rw [indentation, List.takeWhile_append_of_pos blank_of_replicate] at member
  rcases List.mem_append.mp member with front | behind
  · exact List.eq_of_mem_replicate front
  · exact spaced c behind

/-- A passage is read of lines of which a body stands deeper as it is laid out without. -/
theorem Deepened.foldl_takeNode {k : Nat} {ns ns' : List Node} (deepened : Deepened k ns ns')
    {ls : List SourceLine} (whole : Body ls ns) (spaced : ∀ l ∈ ls, IsSpaced l.text) (level : Level ns')
    (s : Passage × Nat) : ns'.foldl takeNode s = ns.foldl layNode s := by
  obtain ⟨front, inner, back, _, rfl, _, deeper⟩ := deepened.lines whole
  have further : ∀ l ∈ front ++ inner.map (·.deeper k) ++ back, IsSpaced l.text := by
    simp only [List.forall_mem_append, List.forall_mem_map] at spaced ⊢
    exact ⟨⟨spaced.1.1, fun l member => (spaced.1.2 l member).deeper k⟩, spaced.2⟩
  rw [foldl_takeNode_laid (level.fits (deeper.textsAre further).2), deepened.foldl_layNode]

/-- Whether a line has a role that adds nothing of its own. -/
def SourceLine.plays (l : SourceLine) (role : Role) : Bool :=
  match l.role?, role with
  | some .text, .text | some .otherwise, .otherwise => true
  | some .endCond, .endCond | some .endLoop, .endLoop => true
  | some (.cond condition), .cond condition' => condition = condition'
  | some (.elif condition), .elif condition' => condition = condition'
  | some (.loop vars collection), .loop vars' collection' => vars = vars' ∧ collection = collection'
  | _, _ => false

lemma role?_of_plays {l : SourceLine} {role : Role} (plays : l.plays role) : l.role? = some role := by
  unfold SourceLine.plays at plays
  split at plays <;> simp_all

end BranchingStory.Source

namespace BranchingStory

open Source Text

/-- Each passage of a compiled story is what the lines behind its header denote. If only spaces stand in front
of lines, and in each block the lines of a body lose by the indentation of the block what stands in front of
the first of them, then a body is read as its lines are with what they have of white space beyond the first of
them. If this is so too where one body stands deeper, the passage is the same there. -/
theorem Story.CompiledFrom.dedented {e : Expansion} {story : Story} (compiled : story.CompiledFrom e)
    (spaced : ∀ l ∈ e.lines, IsSpaced l.text) {id : String} {p : Passage}
    (member : (id, p) ∈ story.passages) :
    ∃ header lines text p₀, header :: lines <:+ e.lines ∧
      dropFront? [':', ':'] (trim header.text) = some text ∧ readHeader text = .ok p₀ ∧
      (∃ ns, Body (passageLines lines) ns) ∧
      ∀ ns, Body (passageLines lines) ns → Level ns →
        p = (linkPassage story.params header.file (ns.foldl layNode (p₀, 0)).1).1 ∧
        ∀ k ns', Deepened k ns ns' →
          (∃ front inner back body, passageLines lines = front ++ inner ++ back ∧ Body inner body ∧
            Body (front ++ inner.map (·.deeper k) ++ back) ns') ∧
          (Level ns' → p = (linkPassage story.params header.file (ns'.foldl takeNode (p₀, 0)).1).1) := by
  obtain ⟨header, lines, text, p₀, suffix, found, opened, balanced, denotes⟩ := compiled.denoted member
  have within : ∀ l ∈ passageLines lines, IsSpaced l.text :=
    spaced_passageLines fun l inside => spaced l (suffix.mem (List.mem_cons_of_mem _ inside))
  refine ⟨header, lines, text, p₀, suffix, found, opened, balanced, fun ns body level => ?_⟩
  have laid : p = (linkPassage story.params header.file (ns.foldl layNode (p₀, 0)).1).1 := by
    rw [← foldl_takeNode_laid (level.fits (body.textsAre within).2)]
    exact denotes ns body
  refine ⟨laid, fun k ns' deepened => ⟨deepened.lines body, fun level' => ?_⟩⟩
  rw [deepened.foldl_takeNode body within level']
  exact laid

/-- The texts in the body that a path leads to. -/
def Passage.textsAt (p : Passage) (path : List Nat) : Option (List String) :=
  (contentAt path p.content).map fun items => items.filterMap fun
    | .text text => some text
    | _ => none

/-- A conditional with a loop in it. -/
def campLines : Expansion :=
  ⟨[⟨inlineLabel, 1, ":: Camp".toList⟩, ⟨inlineLabel, 2, "@if rain:".toList⟩,
    ⟨inlineLabel, 3, "    The tents:".toList⟩, ⟨inlineLabel, 4, "      @for tent in tents:".toList⟩,
    ⟨inlineLabel, 5, "         - \x7btent\x7d".toList⟩, ⟨inlineLabel, 6, "             (wet)".toList⟩,
    ⟨inlineLabel, 7, "      @endfor".toList⟩, ⟨inlineLabel, 8, "      and a fire".toList⟩,
    ⟨inlineLabel, 9, "@else:".toList⟩, ⟨inlineLabel, 10, "    Stars.".toList⟩,
    ⟨inlineLabel, 11, "@endif".toList⟩], [], []⟩

def camp : Story :=
  campLines.story

def tentBody : List Node :=
  [.text "         - \x7btent\x7d".toList, .text "             (wet)".toList]

def rainBody (body : List Node) : List Node :=
  [.text "    The tents:".toList, .loop ["tent"] "tents" body, .text "      and a fire".toList]

/-- The nodes of the passage, with the body of the loop. -/
def campNodes (body : List Node) : List Node :=
  [.cond [⟨"rain", rainBody body⟩] (some [.text "    Stars.".toList])]

lemma camp_body : Body (passageLines campLines.lines.tail) (campNodes tentBody) := by
  rw [passageLines_plain (by decide +kernel)]
  have loop : Body (campLines.lines.tail.drop 3 |>.take 2) tentBody :=
    .text (role?_of_plays (by decide +kernel)) (.text (role?_of_plays (by decide +kernel)) .nil)
  have rain : Body (campLines.lines.tail.drop 1 |>.take 6) (rainBody tentBody) :=
    .text (role?_of_plays (by decide +kernel))
      (.loop (role?_of_plays (by decide +kernel)) loop (role?_of_plays (by decide +kernel))
        (.text (role?_of_plays (by decide +kernel)) .nil))
  have otherwise : Body (campLines.lines.tail.drop 8 |>.take 1) [.text "    Stars.".toList] :=
    .text (role?_of_plays (by decide +kernel)) .nil
  exact .cond
    (.otherwise (.first (role?_of_plays (by decide +kernel)) rain) (role?_of_plays (by decide +kernel))
      otherwise)
    (role?_of_plays (by decide +kernel)) .nil

/-- The bodies of these blocks begin without white space, also if the body of the loop stands deeper. -/
theorem camp_dedented :
    camp.CompiledFrom campLines ∧ (∀ l ∈ campLines.lines, IsSpaced l.text) ∧
      (camp.passages.map fun (_, p) => [p.textsAt [0], p.textsAt [0, 0], p.textsAt [1]]) =
        [[some ["The tents:\n", "  and a fire\n"], some ["- ", "\n    (wet)\n"], some ["Stars.\n"]]] ∧
      ∀ id p, (id, p) ∈ camp.passages → ∃ file p₀,
        p = (linkPassage camp.params file ((campNodes tentBody).foldl layNode (p₀, 0)).1).1 ∧
          p = (linkPassage camp.params file
            ((campNodes (deeperNodes 3 tentBody)).foldl takeNode (p₀, 0)).1).1 := by
  have compiled : camp.CompiledFrom campLines := campLines.compiledFrom (by decide +kernel)
  have spaced : ∀ l ∈ campLines.lines, IsSpaced l.text := by decide +kernel
  have noHeader : ∀ l ∈ campLines.lines.tail, (dropFront? [':', ':'] (trim l.text)).isNone := by
    decide +kernel
  have loop : Deepened 3 (rainBody tentBody) (rainBody (deeperNodes 3 tentBody)) :=
    @Deepened.here 3 [_] _ _ _ [_] .loop
  have deepened : Deepened 3 (campNodes tentBody) (campNodes (deeperNodes 3 tentBody)) :=
    @Deepened.inside 3 [] _ _ _ _ [] (@InPlace.limb [] "rain" _ _ [] _) loop
  refine ⟨compiled, spaced, by decide +kernel, fun id p member => ?_⟩
  obtain ⟨header, lines, text, p₀, suffix, found, _, _, laid⟩ :=
    Story.CompiledFrom.dedented compiled spaced member
  have whole : lines = campLines.lines.tail := by
    rcases List.suffix_cons_iff.mp suffix with same | within
    · exact (List.cons.inj same).2
    · have other := noHeader header (within.mem List.mem_cons_self)
      rw [found] at other
      cases other
  obtain ⟨same, deeper⟩ := laid (campNodes tentBody) (whole ▸ camp_body) (by decide +kernel)
  exact ⟨header.file, p₀, same, (deeper 3 _ deepened).2 (by decide +kernel)⟩

/-- A conditional of which the second branch stands deeper than the first. -/
def tentLines : Expansion :=
  ⟨[⟨inlineLabel, 1, ":: Start".toList⟩, ⟨inlineLabel, 2, "@if True:".toList⟩,
    ⟨inlineLabel, 3, "  A".toList⟩, ⟨inlineLabel, 4, "@else:".toList⟩,
    ⟨inlineLabel, 5, "    B".toList⟩, ⟨inlineLabel, 6, "@endif".toList⟩], [], []⟩

/-- The first line of the second branch keeps white space in front of it. -/
theorem tent_keeps_spaces :
    tentLines.story.CompiledFrom tentLines ∧ (∀ l ∈ tentLines.lines, IsSpaced l.text) ∧
      (tentLines.story.passages.map fun (_, p) => [p.textsAt [0], p.textsAt [1]]) =
        [[some ["A\n"], some ["  B\n"]]] :=
  ⟨tentLines.compiledFrom (by decide +kernel), by decide +kernel, by decide +kernel⟩

end BranchingStory
