import Thresholding.Proofs.Text.Delimited
import Thresholding.Typing.Error

/-!
# Thresholding.Proofs.Typing.TypeText

**The text of a type identifies it**, and so does a report that shows it.

Nothing in the text of a tuple says how many fields it has, and types, dimensions and the parts of a
tensor type are all parted by the same comma. What makes the text unambiguous is that each form
starts with a character of its own and shows where it ends (`ExprType.selfDelimiting_text`), which
is an induction on the type.
-/

namespace Thresholding

/-! ### Tensor types -/

theorem ElementType.selfDelimiting_text (t : ElementType) : SelfDelimiting text t := by
  refine selfDelimiting_of_prefix fun t' h => ?_
  cases t <;> cases t' <;> simp [text] at h ⊢

theorem selfDelimiting_bracketed (values : List Int) : SelfDelimiting bracketed values := by
  have hclosing : "]".toList = [']'] := by simp
  refine selfDelimiting_listed hclosing (by decide) (fun i => ?_) fun i _ => ?_
  · obtain ⟨c, tail, htext, hc⟩ := exists_start_toString i
    refine ⟨c, tail, htext, ?_⟩
    rintro rfl
    exact absurd hc (by decide)
  · exact delimitedBy_int (by simp) i

theorem Shape.selfDelimiting_text (s : Shape) : SelfDelimiting text s := by
  intro s' rest rest' heq
  obtain ⟨hdims, hrest⟩ := selfDelimiting_bracketed _ heq
  have hdims : s.dims = s'.dims := List.map_injective_iff.2 (fun _ _ => Int64.toInt_inj.1) hdims
  exact ⟨congrArg Shape.mk hdims, hrest⟩

theorem TensorType.selfDelimiting_text (t : TensorType) : SelfDelimiting text t := by
  intro t' rest rest' heq
  simp only [text, String.toList_append, List.append_assoc, List.append_cancel_left_eq] at heq
  obtain ⟨hshape, heq⟩ := t.shape.selfDelimiting_text heq
  obtain ⟨helement, heq⟩ := t.elementType.selfDelimiting_text (List.append_cancel_left heq)
  refine ⟨?_, List.append_cancel_left heq⟩
  cases t
  cases t'
  congr

/-! ### Types -/

namespace ExprType

/-- The character that the text of a type starts with, one for each form of types. -/
def mark : ExprType → Char
  | tensor _ => 'T'
  | tuple _ => '('
  | incomplete => '?'

theorem exists_toList_text (t : ExprType) : ∃ tail, t.text.toList = t.mark :: tail := by
  cases t with
  | tensor t => simp [text, TensorType.text, mark]
  | tuple fields => simp [text, mark]
  | incomplete => simp [text, mark]

theorem mark_eq {t t' : ExprType} {rest rest' : List Char}
    (h : t.text.toList ++ rest = t'.text.toList ++ rest') : t.mark = t'.mark := by
  obtain ⟨tail, htext⟩ := t.exists_toList_text
  obtain ⟨tail', htext'⟩ := t'.exists_toList_text
  rw [htext, htext'] at h
  exact (List.cons.inj h).1

theorem text_tuple (fields : List ExprType) :
    (tuple fields).text = "(" ++ ", ".intercalate (fields.map text) ++ ")" := by
  rw [text, texts_eq_map]

/-- A tuple is self-delimiting if its fields are. -/
theorem selfDelimiting_fields {fields : List ExprType}
    (h : ∀ t ∈ fields, SelfDelimiting text t) :
    SelfDelimiting (fun fields => (tuple fields).text) fields := by
  simp only [text_tuple]
  have hclosing : ")".toList = [')'] := by simp
  refine selfDelimiting_listed hclosing (by decide) (fun t => ?_) fun t ht => ?_
  · obtain ⟨tail, htext⟩ := t.exists_toList_text
    exact ⟨t.mark, tail, htext, by cases t <;> simp [mark]⟩
  · exact (h t ht).delimitedBy _

mutual

/-- **The text of a type shows where it ends**, whatever follows. -/
theorem selfDelimiting_text : ∀ t : ExprType, SelfDelimiting text t
  | tensor t, t', rest, rest', heq => by
    have hmark := mark_eq heq
    cases t' with
    | tensor t' =>
      obtain ⟨rfl, hrest⟩ := t.selfDelimiting_text heq
      exact ⟨rfl, hrest⟩
    | tuple fields' => exact absurd hmark (by simp [mark])
    | incomplete => exact absurd hmark (by simp [mark])
  | tuple fields, t', rest, rest', heq => by
    have hmark := mark_eq heq
    cases t' with
    | tensor t' => exact absurd hmark (by simp [mark])
    | tuple fields' =>
      obtain ⟨rfl, hrest⟩ := selfDelimiting_fields (selfDelimiting_texts fields) heq
      exact ⟨rfl, hrest⟩
    | incomplete => exact absurd hmark (by simp [mark])
  | incomplete, t', rest, rest', heq => by
    have hmark := mark_eq heq
    cases t' with
    | tensor t' => exact absurd hmark (by simp [mark])
    | tuple fields' => exact absurd hmark (by simp [mark])
    | incomplete => exact ⟨rfl, List.append_cancel_left heq⟩

/-- So do the texts of the fields of a tuple. -/
theorem selfDelimiting_texts : ∀ fields : List ExprType, ∀ t ∈ fields, SelfDelimiting text t
  | [], _, h => absurd h List.not_mem_nil
  | t :: fields, _, h =>
    (List.mem_cons.1 h).elim (fun heq => heq ▸ selfDelimiting_text t)
      fun h => selfDelimiting_texts fields _ h

end

end ExprType

/-! ### Reports -/

theorem NodeId.toList_text (id : NodeId) : (text id).toList = '%' :: (toString id).toList := by
  rw [show text id = "%" ++ toString id from rfl, String.toList_append]
  rfl

/-- The name of a node ends where no digit follows. -/
theorem NodeId.delimitedBy_text {ends : List Char} (hends : ∀ c ∈ ends, c.isDigit = false)
    (id : NodeId) : DelimitedBy ends text id := by
  intro id' rest rest' hrest hrest' heq
  rw [toList_text, toList_text] at heq
  exact delimitedBy_nat hends id hrest hrest' (List.cons.inj heq).2

theorem ThresholdOperand.selfDelimiting_text (operand : ThresholdOperand) :
    SelfDelimiting text operand := by
  refine selfDelimiting_of_prefix fun operand' h => ?_
  cases operand <;> cases operand' <;> simp [text] at h ⊢

namespace TypeError

theorem message_notATensor (operand : ThresholdOperand) (found : ExprType) :
    (notATensor operand found).toDiagnostic.message = "MultiThreshold: " ++
      ("operand `" ++ operand.text ++ "` is not a tensor type (found " ++ found.text ++ ")") :=
  rfl

/-- The message that an operand is no tensor tells the operand and its type, whatever follows. -/
theorem notATensor_inj {operand operand' : ThresholdOperand} {found found' : ExprType}
    {rest rest' : List Char} (heq : (notATensor operand found).toDiagnostic.message.toList ++ rest =
      (notATensor operand' found').toDiagnostic.message.toList ++ rest') :
    operand = operand' ∧ found = found' := by
  rw [message_notATensor, message_notATensor] at heq
  simp only [String.toList_append, List.append_assoc, List.append_cancel_left_eq] at heq
  obtain ⟨hoperand, heq⟩ := operand.selfDelimiting_text heq
  obtain ⟨hfound, -⟩ := found.selfDelimiting_text (List.append_cancel_left heq)
  exact ⟨hoperand, hfound⟩

end TypeError

namespace Diagnostic

theorem text_atNode (d : Diagnostic) (id : NodeId) :
    (d.atNode id).text = d.severity.text ++ ("[" ++ NodeId.text id ++ "]") ++ ": " ++ d.message
      ++ String.join (d.notes.map fun note => "\n  = note: " ++ note) :=
  rfl

/-- Of diagnostics of one severity, the text at a node tells the node, and what it goes on with. -/
theorem text_atNode_inj {d d' : Diagnostic} {id id' : NodeId} (hseverity : d.severity = d'.severity)
    (heq : (d.atNode id).text = (d'.atNode id').text) :
    id = id' ∧ ∃ rest rest', d.message.toList ++ rest = d'.message.toList ++ rest' := by
  have hbracket : ∀ rest, StartsIn [']'] ("]".toList ++ rest) := fun rest =>
    ⟨']', List.mem_singleton_self _, rest, by simp⟩
  rw [text_atNode, text_atNode, hseverity, ← String.toList_inj] at heq
  simp only [String.toList_append, List.append_assoc, List.append_cancel_left_eq] at heq
  obtain ⟨hid, heq⟩ := NodeId.delimitedBy_text (by simp) id (hbracket _) (hbracket _) heq
  rw [List.append_cancel_left_eq, List.append_cancel_left_eq] at heq
  exact ⟨hid, _, _, heq⟩

end Diagnostic

/-- The texts that show a type `a` and those that show a type `b` are told apart. -/
structure ExprType.ToldApart (a b : ExprType) : Prop where
  /-- The text of a type is that of no other. -/
  text_eq_iff : a.text = b.text ↔ a = b
  /-- It shows where it ends, whatever follows. -/
  append_eq_iff : ∀ rest rest' : String, a.text ++ rest = b.text ++ rest' ↔ a = b ∧ rest = rest'
  /-- The message that an operand is no tensor tells the type, and the operand. -/
  message_eq_iff : ∀ operand operand',
    (TypeError.notATensor operand a).toDiagnostic.message =
      (TypeError.notATensor operand' b).toDiagnostic.message ↔ operand = operand' ∧ a = b
  /-- The text of the report at a node tells the type, the operand and the node. -/
  report_eq_iff : ∀ operand operand' id id',
    ((TypeError.notATensor operand a).toDiagnostic.atNode id).text =
      ((TypeError.notATensor operand' b).toDiagnostic.atNode id').text ↔
    operand = operand' ∧ a = b ∧ id = id'

/-- **The text of a type identifies it**, and so do the reports that show it: for tensors of any
shape, and tuples of any length and depth. -/
theorem ExprType.toldApart (a b : ExprType) : ToldApart a b where
  text_eq_iff := ⟨a.selfDelimiting_text.eq, congrArg text⟩
  append_eq_iff rest rest' := by
    refine ⟨fun heq => ?_, fun ⟨htype, hrest⟩ => by rw [htype, hrest]⟩
    rw [← String.toList_inj, String.toList_append, String.toList_append] at heq
    obtain ⟨htype, hrest⟩ := a.selfDelimiting_text heq
    exact ⟨htype, String.toList_inj.1 hrest⟩
  message_eq_iff operand operand' := by
    refine ⟨fun heq => ?_, fun ⟨hoperand, htype⟩ => by rw [hoperand, htype]⟩
    exact TypeError.notATensor_inj (congrArg (fun text : String => text.toList ++ []) heq)
  report_eq_iff operand operand' id id' := by
    refine ⟨fun heq => ?_, fun ⟨hoperand, htype, hid⟩ => by rw [hoperand, htype, hid]⟩
    have hseverity : (TypeError.notATensor operand a).toDiagnostic.severity =
        (TypeError.notATensor operand' b).toDiagnostic.severity := rfl
    obtain ⟨hid, rest, rest', heq⟩ := Diagnostic.text_atNode_inj hseverity heq
    obtain ⟨hoperand, htype⟩ := TypeError.notATensor_inj heq
    exact ⟨hoperand, htype, hid⟩

/-- The same characters with the parentheses and the comma at other places. -/
example : (ExprType.tuple [.tuple [], .incomplete]).text = "((), ?)" ∧
    (ExprType.tuple [.tuple [.tuple [], .incomplete]]).text = "(((), ?))" ∧
    (ExprType.tuple [.tuple [.tuple []], .incomplete]).text = "((()), ?)" := by
  decide +kernel

end Thresholding
