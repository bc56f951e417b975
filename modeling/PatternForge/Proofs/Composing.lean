import PatternForge.Proofs.Readers
import PatternForge.Yaml.Graph

/-! # Composing

The reader of a graph only takes tokens off. It gives up because the text is no document, or where
the tokens end before the document does, and then with the fault that ended them
(`Graph.fails_ofTokens`).
-/

namespace PatternForge.Yaml

/-- The tokens end in a fault that there may be, if they end in one. -/
def Composition.Ends (fails : Fault → Prop) (state : Composition) : Prop :=
  ∀ fault, state.stream.fault = some fault → fails fault

namespace Composer

open PatternForge.Yaml.Composition (Ends)

variable {fails : Fault → Prop}

theorem keeps_drop : Keeps (Ends fails) fails drop :=
  .modify fun _ ends => ends

theorem keeps_addNode (node : Node) : Keeps (Ends fails) fails (addNode node) := by
  refine Reads.get.bind fun state => ?_
  rintro _ ⟨rfl, ends⟩
  exact ends

theorem keeps_addEmpty : Keeps (Ends fails) fails addEmpty :=
  keeps_addNode _

variable (gives : fails .malformed)

include gives

/-- Where there is no token left, the reading ends as the tokens do. -/
theorem keeps_peek : Keeps (Ends fails) fails peek := by
  refine Reads.get.bind fun state => ?_
  dsimp only
  split
  · exact (Keeps.pure _).reads fun _ found => found.2
  · rintro _ ⟨rfl, ends⟩
    change fails (state.stream.fault.getD .malformed)
    cases ended : state.stream.fault with
    | none => exact gives
    | some fault => exact ends fault ended

theorem keeps_sees (others : List Token) : Keeps (Ends fails) fails (sees others) :=
  (keeps_peek gives).bind fun _ => .pure _

theorem keeps_accept (token : Token) : Keeps (Ends fails) fails (accept token) :=
  (keeps_peek gives).bind fun _ => .ite (keeps_drop.bind fun _ => .pure _) (.pure _)

theorem keeps_expect (token : Token) : Keeps (Ends fails) fails (expect token) :=
  (keeps_accept gives token).bind fun _ => .ite (.throw gives) (.pure _)

/-! ## Properties of nodes -/

theorem keeps_anchor? : Keeps (Ends fails) fails anchor? := by
  refine (keeps_peek gives).bind fun token => ?_
  split
  · exact keeps_drop.bind fun _ => .pure _
  · exact .pure _

theorem keeps_tag? : Keeps (Ends fails) fails tag? := by
  refine (keeps_peek gives).bind fun token => ?_
  split
  · exact keeps_drop.bind fun _ => .pure _
  · exact .pure _

theorem keeps_properties : Keeps (Ends fails) fails properties := by
  refine (keeps_anchor? gives).bind fun anchor => ?_
  cases anchor with
  | some anchor => exact (keeps_tag? gives).bind fun _ => .pure _
  | none =>
    refine (keeps_tag? gives).bind fun tag => ?_
    cases tag with
    | some tag => exact (keeps_anchor? gives).bind fun _ => .pure _
    | none => exact .pure _

theorem keeps_fullName (tag : WrittenTag) : Keeps (Ends fails) fails (fullName tag) := by
  rw [fullName.eq_def]
  split
  · exact .pure _
  · refine Keeps.get.bind fun state => ?_
    split
    · exact .pure _
    · exact .throw gives

/-! ## Nodes -/

theorem keeps_addNamed (anchor : Option (List Char)) (node : Node) :
    Keeps (Ends fails) fails (addNamed anchor node) := by
  cases anchor with
  | none => exact keeps_addNode node
  | some name =>
    refine Keeps.get.bind fun _ => .optionally (.throw gives) fun _ => ?_
    refine (keeps_addNode node).bind fun _ => Keeps.bind ?_ fun _ => .pure _
    exact .modify fun _ ends => ends

theorem keeps_sequence (properties : Properties) (tag : Option (List Char))
    {items : Composer (List NodeId)} (keeps : Keeps (Ends fails) fails items) :
    Keeps (Ends fails) fails (sequence properties tag items) :=
  (keeps_addNamed gives _ _).bind fun _ => keeps.bind fun _ =>
    Keeps.bind (.modify fun _ ends => ends) fun _ => .pure _

theorem keeps_mapping (properties : Properties) (tag : Option (List Char))
    {entries : Composer (List (NodeId × NodeId))} (keeps : Keeps (Ends fails) fails entries) :
    Keeps (Ends fails) fails (mapping properties tag entries) :=
  (keeps_addNamed gives _ _).bind fun _ => keeps.bind fun _ =>
    Keeps.bind (.modify fun _ ends => ends) fun _ => .pure _

theorem keeps_emptyNode (properties : Properties) (tag : Option (List Char)) :
    Keeps (Ends fails) fails (emptyNode properties tag) :=
  .optionally (.throw gives) fun _ => keeps_addNamed gives _ _

/- The readers of nodes call one another, each with fewer steps left than it has itself. -/

mutual

theorem keeps_node : ∀ (count : Nat) (position : Position),
    Keeps (Ends fails) fails (node count position)
  | 0, _ => .throw gives
  | more + 1, position => by
    refine (keeps_peek gives).bind fun token => ?_
    split
    · refine keeps_drop.bind fun _ => Keeps.get.bind fun state => ?_
      split
      · exact .pure _
      · exact .throw gives
    · refine (keeps_properties gives).bind fun properties => ?_
      have named : Keeps (Ends fails) fails (properties.tag.mapM fullName) := by
        cases properties.tag with
        | none => exact .pure _
        | some tag => exact .map _ (keeps_fullName gives tag)
      refine named.bind fun tag => (keeps_peek gives).bind fun token => ?_
      have empty := keeps_emptyNode gives properties tag
      split
      · exact .ite (keeps_sequence gives _ _ (keeps_looseItems more)) empty
      · exact keeps_drop.bind fun _ => keeps_addNamed gives _ _
      · exact keeps_sequence gives _ _ (keeps_drop.bind fun _ => keeps_flowItems true more)
      · exact keeps_mapping gives _ _ (keeps_drop.bind fun _ => keeps_flowEntries true more)
      · refine .ite (keeps_sequence gives _ _ ?_) empty
        exact keeps_drop.bind fun _ => keeps_blockItems more
      · refine .ite (keeps_mapping gives _ _ ?_) empty
        exact keeps_drop.bind fun _ => keeps_blockEntries more
      · exact empty

theorem keeps_nodeBefore : ∀ (count : Nat) (position : Position) (others : List Token),
    Keeps (Ends fails) fails (nodeBefore count position others)
  | 0, _, _ => .throw gives
  | more + 1, position, others =>
    (keeps_sees gives others).bind fun _ => .ite keeps_addEmpty (keeps_node more position)

theorem keeps_blockItems : ∀ count : Nat, Keeps (Ends fails) fails (blockItems count)
  | 0 => .throw gives
  | more + 1 => by
    refine (keeps_accept gives _).bind fun _ => .ite ?_ ?_
    · exact (keeps_nodeBefore more _ _).bind fun _ => (keeps_blockItems more).bind fun _ => .pure _
    · exact (keeps_expect gives _).bind fun _ => .pure _

theorem keeps_looseItems : ∀ count : Nat, Keeps (Ends fails) fails (looseItems count)
  | 0 => .throw gives
  | more + 1 => by
    refine (keeps_accept gives _).bind fun _ => .ite ?_ (.pure _)
    exact (keeps_nodeBefore more _ _).bind fun _ => (keeps_looseItems more).bind fun _ => .pure _

theorem keeps_blockEntries : ∀ count : Nat, Keeps (Ends fails) fails (blockEntries count)
  | 0 => .throw gives
  | more + 1 => by
    refine (keeps_accept gives _).bind fun _ => .ite ?_ ?_
    · exact (keeps_nodeBefore more _ _).bind fun _ => (keeps_valueBefore more _ _).bind fun _ =>
        (keeps_blockEntries more).bind fun _ => .pure _
    · exact (keeps_expect gives _).bind fun _ => .pure _

theorem keeps_valueBefore : ∀ (count : Nat) (position : Position) (others : List Token),
    Keeps (Ends fails) fails (valueBefore count position others)
  | 0, _, _ => .throw gives
  | more + 1, position, others =>
    (keeps_accept gives _).bind fun _ =>
      .ite (keeps_nodeBefore more position others) keeps_addEmpty

theorem keeps_flowItems : ∀ (first : Bool) (count : Nat),
    Keeps (Ends fails) fails (flowItems first count)
  | _, 0 => .throw gives
  | first, more + 1 => by
    refine (keeps_accept gives _).bind fun _ => .ite (.pure _) ?_
    refine .optionally (keeps_expect gives _) fun _ => ?_
    refine (keeps_accept gives _).bind fun _ => .ite ?_ ?_
    · refine Keeps.bind ?_ fun _ => (keeps_flowItems false more).bind fun _ => .pure _
      refine keeps_mapping gives _ _ ((keeps_nodeBefore more _ _).bind fun _ => ?_)
      exact (keeps_valueBefore more _ _).bind fun _ => .pure _
    · refine (keeps_accept gives _).bind fun _ => .ite (.pure _) ?_
      exact (keeps_node more _).bind fun _ => (keeps_flowItems false more).bind fun _ => .pure _

theorem keeps_flowEntries : ∀ (first : Bool) (count : Nat),
    Keeps (Ends fails) fails (flowEntries first count)
  | _, 0 => .throw gives
  | first, more + 1 => by
    refine (keeps_accept gives _).bind fun _ => .ite (.pure _) ?_
    refine .optionally (keeps_expect gives _) fun _ => ?_
    refine (keeps_accept gives _).bind fun _ => .ite ?_ ?_
    · exact (keeps_nodeBefore more _ _).bind fun _ => (keeps_valueBefore more _ _).bind fun _ =>
        (keeps_flowEntries false more).bind fun _ => .pure _
    · refine (keeps_accept gives _).bind fun _ => .ite (.pure _) ?_
      exact (keeps_node more _).bind fun _ => (keeps_peek gives).bind fun _ =>
        keeps_addEmpty.bind fun _ => (keeps_flowEntries false more).bind fun _ => .pure _

end

/-! ## Documents -/

theorem keeps_directives (count : Nat) (versioned : Bool) (handles : List (List Char × List Char)) :
    Keeps (Ends fails) fails (directives count versioned handles) := by
  induction count generalizing versioned handles with
  | zero => exact .throw gives
  | succ count ih =>
    refine (keeps_peek gives).bind fun token => ?_
    split
    · refine keeps_drop.bind fun _ => ?_
      split
      · exact .optionally (.throw gives) fun _ => ih _ _
      · exact .optionally (.throw gives) fun _ => ih _ _
      · exact ih _ _
    · exact .modify fun _ ends => ends

theorem keeps_documentStart (budget : Nat) : Keeps (Ends fails) fails (documentStart budget) :=
  (keeps_directives gives _ _ _).bind fun _ => keeps_expect gives _

theorem keeps_documentEnds (count : Nat) : Keeps (Ends fails) fails (documentEnds count) := by
  induction count with
  | zero => exact .throw gives
  | succ count ih => exact (keeps_accept gives _).bind fun _ => .ite ih (.pure _)

theorem keeps_document (budget : Nat) : Keeps (Ends fails) fails (document budget) := by
  have written : Keeps (Ends fails) fails (some <$> node budget .block) :=
    .map _ (keeps_node gives budget .block)
  have finish (root : Option NodeId) : Keeps (Ends fails) fails (documentEnds budget >>= fun _ =>
      accept .streamEnd >>= fun ended => if !ended then
        documentStart budget >>= fun _ => throw .malformed else pure root) :=
    (keeps_documentEnds gives _).bind fun _ => (keeps_accept gives _).bind fun _ =>
      .ite ((keeps_documentStart gives _).bind fun _ => .throw gives) (.pure _)
  refine (keeps_peek gives).bind fun _ => .ite ?_ ?_
  · refine (keeps_sees gives _).bind fun _ => .ite (finish none) ?_
    refine (keeps_documentStart gives _).bind fun _ => (keeps_peek gives).bind fun _ => .ite ?_ ?_
    · exact (Keeps.map _ keeps_addEmpty).bind finish
    · exact written.bind finish
  · exact Keeps.bind (.modify fun _ ends => ends) fun _ => written.bind finish

end Composer

/-- There is a graph unless the text is no document or its tokens end in a fault. -/
theorem Graph.fails_ofTokens {stream : TokenStream} {fails : Fault → Prop}
    (gives : fails .malformed) (ends : ∀ fault, stream.fault = some fault → fails fault)
    {fault : Fault} (failed : Graph.ofTokens stream = .error fault) : fails fault := by
  have composed : Keeps (Composition.Ends fails) fails
      (Composer.document (4 * stream.tokens.length + 8)) := Composer.keeps_document gives _
  rw [ofTokens] at failed
  cases ended : Composer.document (4 * stream.tokens.length + 8) { stream } with
  | error reason =>
    rw [ended] at failed
    cases failed
    have sound : Composition.Ends fails { stream } := ends
    exact composed.error sound ended
  | ok result =>
    rw [ended] at failed
    cases failed

end PatternForge.Yaml
