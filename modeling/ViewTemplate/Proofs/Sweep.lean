import ViewTemplate.Proofs.Segmentation

/-!
Passes in one sweep. A piece belongs to at most one pass, and what a pass has made of it belongs to
none; so running passes one after the other puts out the code of each piece whose pass is among
them, and every other piece as it was written (`isOneSweep_compileWith`).
-/

namespace ViewTemplate.Directive

/-! ## Pieces and their passes -/

/-- The pass for the directives of a kind. There is none for `extends`, which is moved. -/
def Kind.pass? : Kind → Option Pass
  | .extends => none
  | .if | .elseif | .foreach | .for | .while => some .openings
  | .endif | .endforeach | .endfor | .endwhile => some .closings
  | .else => some .else
  | .unless | .endunless => some .unless
  | .include => some .includes
  | .each => some .each
  | .yield => some .yields
  | .show => some .shows
  | .section => some .sectionStart
  | .stop => some .sectionStop

/-- The code of a directive with arguments, which stand for nothing if its kind takes none. -/
def Kind.asCode (arguments : List Char) (kind : Kind) : List Char :=
  match kind with
  | .extends => []
  | .if | .elseif | .foreach | .for | .while =>
      tag (kind.name.toList ++ " (".toList ++ arguments ++ "):".toList)
  | .endif | .endforeach | .endfor | .endwhile => tag (kind.name.toList ++ [';'])
  | .else => tag "else:".toList
  | .unless => tagAround "if (!(" arguments ")):"
  | .endunless => tag "endif;".toList
  | .include => tagAround "echo __env.make(" arguments ", defined_vars());"
  | .each => tagAround "echo __env.show_each(" arguments ");"
  | .yield => tagAround "echo __env.yield(" arguments ");"
  | .show => tag "echo __env.yield_section();".toList
  | .section => tagAround "__env.start_section(" arguments ");"
  | .stop => tag "__env.stop_section();".toList

/-- The pass that a piece belongs to. Text and code belong to none, and neither does a directive
without the arguments that its kind takes. -/
def Piece.pass? : Piece → Option Pass
  | .text _ | .code _ => none
  | .comment .. => some .comments
  | .echo .. => some .echos
  | .directive kind arguments _ =>
      if kind.takesArguments = true ∧ arguments = none then none else kind.pass?

/-- The code that the pass of a piece makes of it. -/
def Piece.asCode : Piece → List Char
  | .text content | .code content => content
  | .comment content closed _ => commentCode content closed
  | .echo expression _ => tagAround "echo " expression ";"
  | .directive kind arguments _ => kind.asCode (arguments.getD [])

theorem lowerPlain?_eq (pass : Pass) (kind : Kind) :
    pass.lowerPlain? kind =
      if kind.takesArguments = false ∧ kind.pass? = some pass then some (kind.asCode [])
      else none := by
  cases pass <;> cases kind <;> rfl

theorem lowerApplied?_eq (pass : Pass) (kind : Kind) (arguments : List Char) :
    pass.lowerApplied? arguments kind =
      if kind.takesArguments = true ∧ kind.pass? = some pass then some (kind.asCode arguments)
      else none := by
  cases pass <;> cases kind <;> rfl

theorem Kind.asCode_of_plain {kind : Kind} (plain : kind.takesArguments = false)
    (arguments : List Char) : kind.asCode arguments = kind.asCode [] := by
  cases kind <;> first | rfl | cases plain

/-- A pass lowers the pieces that belong to it and no others. -/
theorem lower?_eq_some_iff {pass : Pass} {piece : Piece} {code : List Char} :
    pass.lower? piece = some code ↔ piece.pass? = some pass ∧ piece.asCode = code := by
  cases piece with
  | text content => simp [Pass.lower?, Piece.pass?]
  | code content => simp [Pass.lower?, Piece.pass?]
  | comment content closed raw => simp [Pass.lower?, Piece.pass?, Piece.asCode, eq_comm]
  | echo expression raw => simp [Pass.lower?, Piece.pass?, Piece.asCode, eq_comm]
  | directive kind arguments raw =>
      simp only [Pass.lower?, Piece.pass?, Piece.asCode, lowerPlain?_eq, lowerApplied?_eq]
      cases takes : kind.takesArguments with
      | false =>
          rw [Kind.asCode_of_plain takes (arguments.getD [])]
          by_cases own : kind.pass? = some pass <;> simp [own]
      | true =>
          cases arguments with
          | none => simp
          | some arguments => simp

theorem lowerPiece_eq (pass : Pass) (piece : Piece) :
    pass.lowerPiece piece = if piece.pass? = some pass then .code piece.asCode else piece := by
  unfold Pass.lowerPiece
  split
  next code lowered =>
    obtain ⟨own, rfl⟩ := lower?_eq_some_iff.1 lowered
    rw [if_pos own]
  next unlowered =>
    have other : piece.pass? ≠ some pass := by
      intro own
      cases unlowered.symm.trans (lower?_eq_some_iff.2 ⟨own, rfl⟩)
    rw [if_neg other]

theorem lowerPiece_of_pass?_eq_none {piece : Piece} (none : piece.pass? = none) (pass : Pass) :
    pass.lowerPiece piece = piece := by
  rw [lowerPiece_eq, if_neg (by simp [none])]

/-- Running passes on a piece, of which at most one lowers it: nothing is done to its code. -/
theorem foldl_lowerPiece (passes : List Pass) (piece : Piece) :
    passes.foldl (fun piece pass => pass.lowerPiece piece) piece =
      if ∃ pass ∈ passes, piece.pass? = some pass then .code piece.asCode else piece := by
  induction passes generalizing piece with
  | nil => simp
  | cons pass passes inductionHypothesis =>
      rw [List.foldl_cons, inductionHypothesis, lowerPiece_eq]
      by_cases own : piece.pass? = some pass
      · have later : ¬∃ pass ∈ passes, (Piece.code piece.asCode).pass? = some pass := by
          simp [Piece.pass?]
        rw [if_pos own, if_neg later, if_pos ⟨pass, List.mem_cons_self, own⟩]
      · simp [own]

/-! ## Whole views -/

/-- What is put out for a piece when the passes of a selection are run. -/
def Piece.swept (selection : List Pass) (piece : Piece) : List Char :=
  match piece.pass? with
  | some pass => if pass ∈ selection then piece.asCode else piece.raw
  | none => piece.raw

/-- The pieces in the order in which they are put out. -/
def arranged (selection : List Pass) (pieces : List Piece) : List Piece :=
  if .inheritance ∈ selection then inherit pieces else pieces

/-- Lowers a view by going over its pieces once. -/
def sweep (selection : List Pass) (source : List Char) : List Char :=
  (arranged selection (pieces source)).flatMap (Piece.swept selection)

theorem pass?_ne_inheritance (piece : Piece) : piece.pass? ≠ some .inheritance := by
  cases piece with
  | directive kind arguments raw =>
      rw [Piece.pass?]
      split
      · simp
      · cases kind <;> simp [Kind.pass?]
  | _ => simp [Piece.pass?]

/-- The passes of a selection that lower pieces, in the order in which they are run. -/
theorem selected_eq (selection : List Pass) :
    Pass.selected selection =
      (if .inheritance ∈ selection then [.inheritance] else []) ++
        loweringPasses.filter fun pass => pass ∈ selection := by
  change List.filter _ (.inheritance :: loweringPasses) = _
  rw [List.filter_cons]
  by_cases moved : .inheritance ∈ selection <;> simp [moved]

theorem mem_loweringPasses_iff {pass : Pass} : pass ∈ loweringPasses ↔ pass ≠ .inheritance := by
  cases pass <;> decide

theorem raw_foldl_lowerPiece (selection : List Pass) (piece : Piece) :
    ((loweringPasses.filter fun pass => pass ∈ selection).foldl
      (fun piece pass => pass.lowerPiece piece) piece).raw = piece.swept selection := by
  have own (pass : Pass) (belongs : piece.pass? = some pass) : pass ∈ loweringPasses :=
    mem_loweringPasses_iff.2 fun same => pass?_ne_inheritance piece (same ▸ belongs)
  rw [foldl_lowerPiece, Piece.swept]
  cases belongs : piece.pass? with
  | none => simp
  | some pass =>
      by_cases chosen : pass ∈ selection
      · have found : ∃ other ∈ loweringPasses.filter fun pass => pass ∈ selection,
            some pass = some other :=
          ⟨pass, List.mem_filter.2 ⟨own pass belongs, by simpa using chosen⟩, rfl⟩
        rw [if_pos found]
        simp only [chosen, if_true]
        rfl
      · have missing : ¬∃ other ∈ loweringPasses.filter fun pass => pass ∈ selection,
            some pass = some other := by
          rintro ⟨other, member, same⟩
          obtain rfl := Option.some.inj same
          exact chosen (by simpa using (List.mem_filter.1 member).2)
        rw [if_neg missing]
        simp only [chosen, if_false]

theorem lower_eq_sweep (selection : List Pass) (source : List Char) :
    lower selection source = sweep selection source := by
  have lowering : ∀ pass ∈ loweringPasses.filter fun pass => pass ∈ selection,
      pass ≠ .inheritance :=
    fun pass member => mem_loweringPasses_iff.1 (List.mem_filter.1 member).1
  have moved : (if .inheritance ∈ selection then [Pass.inheritance] else []).foldl
      (fun pieces pass => pass.apply pieces) (pieces source) =
        arranged selection (pieces source) := by
    unfold arranged
    split <;> rfl
  rw [lower, selected_eq, List.foldl_append, moved, foldl_apply lowering, List.flatMap_map, sweep]
  exact congrArg (List.flatMap · _) (funext (raw_foldl_lowerPiece selection))

theorem sweep_congr {selection other : List Pass}
    (same : ∀ pass, pass ∈ selection ↔ pass ∈ other) : sweep selection = sweep other := by
  have swept : Piece.swept selection = Piece.swept other := by
    funext piece
    simp only [Piece.swept, same]
  funext source
  simp only [sweep, arranged, same, swept]

/-- Without passes a view stays what it is. -/
theorem sweep_nil (source : List Char) : sweep [] source = source := by
  have swept : Piece.swept [] = Piece.raw := by
    funext piece
    rw [Piece.swept]
    split <;> simp
  rw [sweep, arranged, if_neg List.not_mem_nil, swept]
  exact (isSegmentation_pieces source).lossless

/-- Of passes that lower pieces, only which ones are run matters: not how often and in which
order. -/
theorem foldl_apply_congr {passes others : List Pass} (lowering : .inheritance ∉ passes)
    (same : ∀ pass, pass ∈ passes ↔ pass ∈ others) (pieces : List Piece) :
    passes.foldl (fun pieces pass => pass.apply pieces) pieces =
      others.foldl (fun pieces pass => pass.apply pieces) pieces := by
  have first : ∀ pass ∈ passes, pass ≠ .inheritance := by
    rintro pass member rfl
    exact lowering member
  have second : ∀ pass ∈ others, pass ≠ .inheritance :=
    fun pass member => first pass ((same pass).2 member)
  rw [foldl_apply first, foldl_apply second]
  refine List.map_congr_left fun piece _ => ?_
  rw [foldl_lowerPiece, foldl_lowerPiece]
  simp only [same]

/-- Compiling with passes is one sweep over the pieces of a view. -/
structure IsOneSweep (selection : List Pass) (source : String) : Prop where
  output : (compileWith selection source).toList = sweep selection source.toList
  /-- A pass lowers the pieces that belong to it, so no other pass lowers them. -/
  lowers (pass : Pass) (piece : Piece) (code : List Char) :
    pass.lower? piece = some code ↔ piece.pass? = some pass ∧ piece.asCode = code
  keeps (pass : Pass) (content : List Char) :
    pass.lowerPiece (.text content) = .text content ∧
      pass.lowerPiece (.code content) = .code content
  /-- How often a pass is selected, and where in the selection, does not matter. -/
  ofSet (other : List Pass) : (∀ pass, pass ∈ selection ↔ pass ∈ other) →
    compileWith selection source = compileWith other source
  swaps (first second : Pass) (pieces : List Piece) :
    first ≠ .inheritance → second ≠ .inheritance →
      first.apply (second.apply pieces) = second.apply (first.apply pieces)
  withoutPasses : compileWith [] source = source

/-- However the passes of a selection are run, they put out the code of each piece whose pass is
selected, and every other piece as it was written. -/
theorem isOneSweep_compileWith (selection : List Pass) (source : String) :
    IsOneSweep selection source where
  output := by rw [compileWith, String.toList_ofList, lower_eq_sweep]
  lowers _ _ _ := lower?_eq_some_iff
  keeps pass _ := ⟨lowerPiece_of_pass?_eq_none rfl pass, lowerPiece_of_pass?_eq_none rfl pass⟩
  ofSet other same := by
    rw [compileWith, compileWith, lower_eq_sweep, lower_eq_sweep, sweep_congr same]
  swaps first second pieces firstLowers secondLowers := by
    have lowering : Pass.inheritance ∉ [second, first] := by
      simp [Ne.symm firstLowers, Ne.symm secondLowers]
    have same : ∀ pass, pass ∈ [second, first] ↔ pass ∈ [first, second] := by
      simp [or_comm]
    exact foldl_apply_congr lowering same pieces
  withoutPasses := by
    rw [compileWith, lower_eq_sweep, sweep_nil, String.ofList_toList]

end ViewTemplate.Directive
