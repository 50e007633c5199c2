import EnumCodegen.Proofs.Document.Json
import EnumCodegen.Proofs.Document.Xml
import EnumCodegen.Sample.Products

/-!
# The documents of the sample package come back

## Main results

* `Sample.isRegular_of_mem_documentTypes`: both formats carry the documents of the package
* `Sample.documents_come_back`: the documents of the package, through JSON and XML
-/

namespace EnumCodegen.Sample

/-- **Both formats carry the documents of the package.** -/
theorem isRegular_of_mem_documentTypes : ∀ type ∈ documentTypes, type.IsRegular := by
  have hall : documentTypes.all (fun type => decide type.IsRegular) = true := by decide +kernel
  intro type htype
  exact of_decide_eq_true (List.all_eq_true.mp hall type htype)

/-- **The documents of the package come back.** In either format a document is written if every number
in it belongs to the enum of its field, and reading what was written gives the same document; in XML
no text may begin or end with a blank. -/
theorem documents_come_back {type : DocumentType} (htype : type ∈ documentTypes)
    {document : Document}
    (hfor : List.Forall₂ (fun field value => value.IsFor field) type.fields document) :
    (((∃ text, type.writeJson document = .ok text) ↔
        List.Forall₂ DocumentField.Admits type.fields document) ∧
      ∀ text, type.writeJson document = .ok text → type.readJson text = .ok document) ∧
    ((∃ text, type.writeXml document = .ok text) ↔
        List.Forall₂ DocumentField.Admits type.fields document) ∧
      ((∀ text, .text text ∈ document → Text.trimmed Text.isBlank text = text) →
        ∀ text, type.writeXml document = .ok text → type.readXml text = .ok document) := by
  have hregular := isRegular_of_mem_documentTypes type htype
  exact ⟨⟨DocumentType.exists_writeJson_iff hregular.hasClearEnum hfor, fun _ =>
      DocumentType.readJson_writeJson hregular.names_nodup hregular.hasClearEnum hfor⟩,
    DocumentType.exists_writeXml_iff hregular.hasClearEnum hfor, fun htext _ =>
      DocumentType.readXml_writeXml hregular hfor htext⟩

/-- A document with an attribute, and with a note that needs escapes, comes back. -/
theorem documents_come_back_note :
    let type := DocumentType.ofMessage schema withAttribute
    let document : Document := [.number 1, .text "a <b>\n& \"c\""]
    let text : Text :=
      "<MessageWithAttribute field=\"DEF\"><Note>a &lt;b&gt;\n&amp; \"c\"</Note></MessageWithAttribute>"
    type ∈ documentTypes ∧
    List.Forall₂ (fun field value => value.IsFor field) type.fields document ∧
    type.writeXml document = .ok text ∧ type.readXml text = .ok document := by
  intro type document text
  have htype : type ∈ documentTypes := by
    refine List.mem_map_of_mem (f := DocumentType.ofMessage schema) ?_
    simp [messages, files, enumsFile]
  have hfor : List.Forall₂ (fun field value => value.IsFor field) type.fields document :=
    .cons ⟨_, rfl⟩ (.cons rfl .nil)
  have hnote : ∀ note, .text note ∈ document → Text.trimmed Text.isBlank note = note := by
    intro note hmem
    obtain rfl : note = "a <b>\n& \"c\"" := by simpa [document] using hmem
    decide
  have hwrite : type.writeXml document = .ok text := by decide +kernel
  exact ⟨htype, hfor, hwrite, (documents_come_back htype hfor).2.2 hnote text hwrite⟩

end EnumCodegen.Sample
