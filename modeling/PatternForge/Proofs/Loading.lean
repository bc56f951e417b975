import PatternForge.Proofs.Composing
import PatternForge.Proofs.Planting
import PatternForge.Proofs.Scanning
import PatternForge.Proofs.Surveying

/-! # Loading

What becomes of a text that is to be loaded. It is refused if it is no document, if its value is no
mapping or if the value describes no scope. These are the faults that loading is meant to end in,
but not the only ones: a text that writes what is no code point, a version that is too long, or a
scalar that cannot be read under its tag ends in a fault of the reading itself.
-/

namespace PatternForge

namespace Yaml

/-- What makes the reading of a text fail: characters of the text, or a scalar of its graph. -/
inductive TextFault (text : Text) (fault : Fault) : Prop where
  | characters (made : CharacterFault text.toChars fault)
  | scalars {graph : Graph} {root : NodeId}
      (composed : Graph.ofTokens (.ofChars text.toChars) = .ok (graph, some root))
      (made : graph.ScalarFault fault)

/-- Whatever fault reading a text ends in, the text makes it. -/
theorem textFault_readDocument {text : Text} {fault : Fault}
    (failed : readDocument text = .error fault) : TextFault text fault := by
  rw [readDocument] at failed
  cases visible : text.all isDocumentPoint with
  | false =>
    rw [visible] at failed
    cases failed
    exact .characters .malformed
  | true =>
    rw [visible] at failed
    cases composed : Graph.ofTokens (.ofChars text.toChars) with
    | error reason =>
      have made : CharacterFault text.toChars reason :=
        Graph.fails_ofTokens .malformed (fun _ => TokenStream.fault_ofChars) composed
      simp only [composed] at failed
      cases failed
      exact .characters made
    | ok result =>
      obtain ⟨graph, root⟩ := result
      simp only [composed] at failed
      cases root with
      | none => cases failed
      | some root => exact .scalars composed (Graph.scalarFault_value failed)

end Yaml

/-- A text is refused as no description: it is no document, its value is no mapping, or the value
describes no scope. -/
def LoadFault.IsRefusal : LoadFault → Prop
  | document fault => fault = .malformed
  | notMapping => True
  | invalid _ => True

namespace Description

variable {text : Text}

theorem ofDocument_of_error {slip : Yaml.Fault} (read : Yaml.readDocument text = .error slip) :
    ofDocument text = .error (.document slip) := by
  rw [ofDocument, read]

/-- A value that was read is no fault of the reading, whatever it is. -/
theorem isRefusal_of_value {value : Value} {fault : LoadFault}
    (read : Yaml.readDocument text = .ok value) (failed : ofDocument text = .error fault) :
    fault.IsRefusal := by
  rw [ofDocument, read] at failed
  cases value with
  | map entries =>
    change (Description.read (.map entries)).mapError .invalid = .error fault at failed
    cases described : Description.read (.map entries) with
    | error findings =>
      rw [described] at failed
      cases failed
      trivial
    | ok description =>
      rw [described] at failed
      cases failed
  | _ =>
    cases failed
    trivial

/-- A text without a description is refused, or it makes the reading of its value fail. -/
theorem isRefusal_or_textFault {fault : LoadFault} (failed : ofDocument text = .error fault) :
    fault.IsRefusal ∨ ∃ slip, slip ≠ .malformed ∧ fault = .document slip ∧
      Yaml.readDocument text = .error slip ∧ Yaml.TextFault text slip := by
  cases read : Yaml.readDocument text with
  | ok value => exact .inl (isRefusal_of_value read failed)
  | error slip =>
    obtain rfl : LoadFault.document slip = fault :=
      Except.error.inj ((ofDocument_of_error read).symm.trans failed)
    by_cases refused : slip = .malformed
    · exact .inl refused
    · exact .inr ⟨slip, refused, rfl, rfl, Yaml.textFault_readDocument read⟩

end Description

namespace Work

/-- A text is loaded exactly if it holds a description, which is planted in the workshop then. Any
other text changes nothing. It is refused, or something in it makes the reading of its value fail:
the number of what is no code point, a version that is too long, or a scalar that is unreadable
under its tag. Then loading ends in the fault of the reading, which is no refusal. -/
theorem loadText_ends (text : Text) (shop : Workshop) :
    match Description.ofDocument text with
    | .ok description => Plants (loadText text) shop description
    | .error fault =>
      (loadText text).run.run shop = (.error (.load fault), shop) ∧
        (fault.IsRefusal ∨ ∃ slip, slip ≠ .malformed ∧ fault = .document slip ∧
          Yaml.readDocument text = .error slip ∧ Yaml.TextFault text slip) := by
  have ends := plants_of_reading (Description.ofDocument text) shop
  rw [← loadText] at ends
  cases read : Description.ofDocument text with
  | ok description =>
    rw [read] at ends
    exact ends
  | error fault =>
    rw [read] at ends
    exact ⟨ends, Description.isRefusal_or_textFault read⟩

theorem loadText_of_error {text : Text} {slip : Yaml.Fault}
    (read : Yaml.readDocument text = .error slip) (shop : Workshop) :
    (loadText text).run.run shop = (.error (.load (.document slip)), shop) := by
  rw [loadText, Description.ofDocument_of_error read]
  rfl

/-- A day that is not in the calendar is no day, and the text is not refused for it. -/
theorem loadText_impossible_day :
    (loadText "name: 2024-02-30").run.run {} = (.error (.load (.document .invalid)), {}) ∧
      ¬(LoadFault.document .invalid).IsRefusal := by
  have slips : (match Yaml.readDocument "name: 2024-02-30" with
      | .error slip => slip == .invalid
      | .ok _ => false) = true := by decide +kernel
  have read : Yaml.readDocument "name: 2024-02-30" = .error .invalid := by
    cases ended : Yaml.readDocument "name: 2024-02-30" with
    | error slip =>
      rw [ended] at slips
      rw [eq_of_beq slips]
    | ok value =>
      rw [ended] at slips
      cases slips
  exact ⟨loadText_of_error read {}, nofun⟩

end Work

end PatternForge
