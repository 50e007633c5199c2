import EnumCodegen.Plugin.Encoding
import EnumCodegen.Proofs.Protobuf.Values
import EnumCodegen.Proofs.Schema.Tree

/-!
# Requests and responses are read as they were written

Every record is written as fields that its message type knows, and is made again from these fields;
the fields themselves are read as they were written. So is the whole record, as long as its messages
are not nested too deeply to be read.

## Main results

* `MessageDescriptor.ofFields_toFields`, `FileDescriptor.ofFields_toFields`: descriptions are made
  again from their fields
* `Plugin.Request.decode_encode`, `Plugin.Response.decode_encode`: requests and responses are read as
  they were written
* `Plugin.messages_decode_encode`: both together
-/

namespace EnumCodegen

open Protobuf

/-! ## Descriptions -/

@[simp] theorem EnumValueDescriptor.ofFields_toFields (value : EnumValueDescriptor) :
    ofFields value.toFields = value := by
  simp [ofFields, toFields, lastText?, lastNumber?, Function.comp_def]

@[simp] theorem EnumDescriptor.ofFields_toFields (enum : EnumDescriptor) :
    ofFields enum.toFields = enum := by
  simp [ofFields, toFields, lastText?, Function.comp_def]

@[simp] theorem FieldDescriptor.ofFields_toFields (field : FieldDescriptor) :
    ofFields field.toFields = field := by
  simp [ofFields, toFields, lastText?, lastNumber?, Option.toList_map, Function.comp_def]

@[simp] theorem SourceLocation.ofFields_toFields (location : SourceLocation) :
    ofFields location.toFields = location := by
  simp [ofFields, toFields, lastText?, Function.comp_def]

@[simp] theorem SourceInfo.ofFields_toFields (source : SourceInfo) :
    ofFields source.toFields = source := by
  simp [ofFields, toFields, Function.comp_def]

@[simp] theorem FileOptions.ofFields_toFields (options : FileOptions) :
    ofFields options.toFields = options := by
  simp [ofFields, toFields, lastText?]

namespace MessageDescriptor

/-- The message with the given fields. -/
def ofFields (fields : List Field) : MessageDescriptor where
  name? := lastText? 1 fields
  fields := (submessages 2 fields).map FieldDescriptor.ofFields
  nested := listOf 3 fields
  enums := (submessages 4 fields).map EnumDescriptor.ofFields

/-- The messages under a number are made of the fields under it. -/
theorem listOf_eq (tag : Nat) (fields : List Field) :
    listOf tag fields = (submessages tag fields).map ofFields := by
  induction fields with
  | nil => rw [listOf]; rfl
  | cons field fields ih =>
    rw [listOf, ih]
    cases field with
    | message tag' inner =>
      by_cases htag : tag' = tag <;> simp [ofField?, ofFields, submessages, htag]
    | _ => simp [ofField?, submessages]

theorem nestedFields_eq (messages : List MessageDescriptor) :
    nestedFields messages = messages.map fun message => .message 3 message.toFields := by
  induction messages with
  | nil => rw [nestedFields]; rfl
  | cons message messages ih => rw [nestedFields, ih]; rfl

theorem toFields_eq (message : MessageDescriptor) :
    message.toFields = textField 1 message.name? ++
      message.fields.map (fun field => .message 2 field.toFields) ++
      message.nested.map (fun inner => .message 3 inner.toFields) ++
      message.enums.map fun enum => .message 4 enum.toFields := by
  cases message
  rw [toFields, nestedFields_eq]

/-- **A message is made again from its fields.** -/
@[simp] theorem ofFields_toFields (message : MessageDescriptor) :
    ofFields message.toFields = message := by
  induction message using nested_induction with
  | h message ih =>
    have hnested : message.nested.map (fun inner => ofFields inner.toFields) = message.nested := by
      rw [List.map_congr_left ih, List.map_id']
    rw [toFields_eq, ofFields, listOf_eq]
    -- under each number stands one group only, so the values under it are those of the group
    simp only [lastText?, texts_append, textField_eq, texts_text, texts_message, submessages_append,
      submessages_text, submessages_message]
    simp [Function.comp_def, hnested]
    cases message
    rfl

end MessageDescriptor

/-- **A file is made again from its fields.** -/
@[simp] theorem FileDescriptor.ofFields_toFields (file : FileDescriptor) :
    ofFields file.toFields = file := by
  -- a part that occurs at most once is merged from nothing else
  have hoptions : submessage? 8 file.toFields = file.options?.map FileOptions.toFields :=
    submessage?_of_toList 8 (by simp [toFields, Option.toList_map])
  have hsource : submessage? 9 file.toFields = file.source?.map SourceInfo.toFields :=
    submessage?_of_toList 9 (by simp [toFields, Option.toList_map])
  rw [ofFields, hoptions, hsource, MessageDescriptor.listOf_eq]
  simp [toFields, lastText?, Option.toList_map, Function.comp_def]

namespace Plugin

/-! ## Requests and responses -/

@[simp] theorem CompilerVersion.ofFields_toFields (version : CompilerVersion) :
    ofFields version.toFields = version := by
  simp [ofFields, toFields, lastText?, lastNumber?, Function.comp_def]

@[simp] theorem ResponseFile.ofFields_toFields (file : ResponseFile) :
    ofFields file.toFields = file := by
  simp [ofFields, toFields, lastText?]

/-- **A request is made again from its fields.** -/
theorem Request.ofFields_toFields (request : Request) : ofFields request.toFields = request := by
  have hversion : submessage? 3 request.toFields = request.version?.map CompilerVersion.toFields :=
    submessage?_of_toList 3 (by simp [toFields, textFields, Option.toList_map])
  rw [ofFields, hversion]
  simp [toFields, lastText?, textFields, Option.toList_map, Function.comp_def]

/-- **A response is made again from its fields.** -/
theorem Response.ofFields_toFields (response : Response) :
    ofFields response.toFields = response := by
  simp [ofFields, toFields, lastText?, lastNumber?, Option.toList_map, Function.comp_def]

end Plugin

/-! ## The message types

Every message type knows the fields that its records are written as. -/

theorem Plugin.schema_isNumbered : schema.IsNumbered := by
  intro type
  cases type <;> decide

open Plugin

theorem EnumValueDescriptor.knows_toFields (value : EnumValueDescriptor) :
    ∀ field ∈ value.toFields, schema.Knows .enumValue field := by
  rw [toFields, List.forall_mem_append]
  exact ⟨Schema.knows_textField rfl _, Schema.knows_int32Field rfl _⟩

theorem EnumDescriptor.knows_toFields (enum : EnumDescriptor) :
    ∀ field ∈ enum.toFields, schema.Knows .enum field := by
  rw [toFields, List.forall_mem_append]
  exact ⟨Schema.knows_textField rfl _,
    Schema.knows_messages rfl fun value _ => value.knows_toFields⟩

theorem FieldDescriptor.knows_toFields (field : FieldDescriptor) :
    ∀ field' ∈ field.toFields, schema.Knows .field field' := by
  have hflag (on : Bool) : (if on then 1 else 0) < numberBound := by cases on <;> decide
  simp only [toFields, List.forall_mem_append, Option.toList_map, and_assoc]
  exact ⟨Schema.knows_textField rfl _, Schema.knows_int32Field rfl _, Schema.knows_int32Field rfl _,
    Schema.knows_int32Field rfl _, Schema.knows_textField rfl _, Schema.knows_int32Field rfl _,
    Schema.knows_numbers rfl fun on _ => hflag on⟩

theorem MessageDescriptor.knows_toFields (message : MessageDescriptor) :
    ∀ field ∈ message.toFields, schema.Knows .message field := by
  induction message using nested_induction with
  | h message ih =>
    rw [toFields_eq]
    simp only [List.forall_mem_append, and_assoc]
    exact ⟨Schema.knows_textField rfl _,
      Schema.knows_messages rfl fun field _ => field.knows_toFields,
      Schema.knows_messages rfl ih,
      Schema.knows_messages rfl fun enum _ => enum.knows_toFields⟩

theorem SourceLocation.knows_toFields (location : SourceLocation) :
    ∀ field ∈ location.toFields, schema.Knows .location field := by
  simp only [toFields, List.forall_mem_append, and_assoc]
  exact ⟨Schema.knows_packedField rfl _, Schema.knows_packedField rfl _,
    Schema.knows_textField rfl _, Schema.knows_textField rfl _⟩

theorem SourceInfo.knows_toFields (source : SourceInfo) :
    ∀ field ∈ source.toFields, schema.Knows .sourceInfo field :=
  Schema.knows_messages rfl fun location _ => location.knows_toFields

theorem FileOptions.knows_toFields (options : FileOptions) :
    ∀ field ∈ options.toFields, schema.Knows .fileOptions field :=
  Schema.knows_textField rfl _

theorem FileDescriptor.knows_toFields (file : FileDescriptor) :
    ∀ field ∈ file.toFields, schema.Knows .file field := by
  simp only [toFields, List.forall_mem_append, Option.toList_map, and_assoc]
  exact ⟨Schema.knows_textField rfl _, Schema.knows_textField rfl _,
    Schema.knows_messages rfl fun message _ => message.knows_toFields,
    Schema.knows_messages rfl fun enum _ => enum.knows_toFields,
    Schema.knows_messages rfl fun options _ => options.knows_toFields,
    Schema.knows_messages rfl fun source _ => source.knows_toFields,
    Schema.knows_textField rfl _⟩

namespace Plugin

theorem CompilerVersion.knows_toFields (version : CompilerVersion) :
    ∀ field ∈ version.toFields, schema.Knows .version field := by
  simp only [toFields, List.forall_mem_append, and_assoc]
  exact ⟨Schema.knows_int32Field rfl _, Schema.knows_int32Field rfl _,
    Schema.knows_int32Field rfl _, Schema.knows_textField rfl _⟩

theorem Request.knows_toFields (request : Request) :
    ∀ field ∈ request.toFields, schema.Knows .request field := by
  simp only [toFields, List.forall_mem_append, Option.toList_map, and_assoc]
  exact ⟨Schema.knows_textFields rfl _, Schema.knows_textField rfl _,
    Schema.knows_messages rfl fun version _ => version.knows_toFields,
    Schema.knows_messages rfl fun file _ => file.knows_toFields⟩

theorem ResponseFile.knows_toFields (file : ResponseFile) :
    ∀ field ∈ file.toFields, schema.Knows .responseFile field := by
  simp only [toFields, List.forall_mem_append, and_assoc]
  exact ⟨Schema.knows_textField rfl _, Schema.knows_textField rfl _, Schema.knows_textField rfl _⟩

theorem Response.knows_toFields (response : Response) :
    ∀ field ∈ response.toFields, schema.Knows .response field := by
  simp only [toFields, List.forall_mem_append, Option.toList_map, and_assoc]
  exact ⟨Schema.knows_textField rfl _, Schema.knows_numbers rfl fun features _ => features.toNat_lt,
    Schema.knows_messages rfl fun file _ => file.knows_toFields⟩

/-! ## Whole requests and responses -/

/-- No message stands inside the files of a response. -/
theorem Response.depthOf_toFields (response : Response) : Field.depthOf response.toFields ≤ 1 := by
  -- an output file consists of texts
  have hfile (file : ResponseFile) : Field.depthOf file.toFields ≤ 0 := by
    rw [Field.depthOf_le_iff]
    intro field hfield
    simp only [ResponseFile.toFields, textField_eq, List.mem_append, List.mem_map] at hfield
    obtain (⟨_, -, rfl⟩ | ⟨_, -, rfl⟩) | ⟨_, -, rfl⟩ := hfield <;> exact Nat.le_refl 0
  rw [Field.depthOf_le_iff]
  intro field hfield
  simp only [toFields, textField_eq, Option.toList_map, List.mem_append, List.mem_map] at hfield
  obtain (⟨_, -, rfl⟩ | ⟨_, -, rfl⟩) | ⟨file, -, rfl⟩ := hfield
  · exact Nat.zero_le 1
  · exact Nat.zero_le 1
  · exact Nat.succ_le_succ (hfile file)

/-- **A response is read as it was written.** -/
theorem Response.decode_encode (response : Response) (h : response.encode.length < numberBound) :
    Response.decode response.encode = .ok response := by
  have hfields := decode_encodeFields schema_isNumbered response.knows_toFields
    (Nat.le_trans response.depthOf_toFields (by decide)) h
  rw [Response.decode, encode, hfields]
  exact congrArg Except.ok response.ofFields_toFields

/-- **A request is read as it was written**, unless its messages are nested too deeply. -/
theorem Request.decode_encode (request : Request)
    (hdepth : Field.depthOf request.toFields ≤ depthLimit)
    (h : request.encode.length < numberBound) :
    Request.decode request.encode = .ok request := by
  have hfields := decode_encodeFields schema_isNumbered request.knows_toFields hdepth h
  rw [Request.decode, encode, hfields]
  exact congrArg Except.ok request.ofFields_toFields

/-- **Reading undoes writing.** A request whose messages are nested at most as deeply as can be read,
and any response, is read as it was written, unless the encoding has as many bytes as no length can
count. -/
theorem messages_decode_encode :
    (∀ request : Request, Field.depthOf request.toFields ≤ depthLimit →
      request.encode.length < numberBound → Request.decode request.encode = .ok request) ∧
    ∀ response : Response, response.encode.length < numberBound →
      Response.decode response.encode = .ok response :=
  ⟨Request.decode_encode, Response.decode_encode⟩

/-- Messages inside one another, so many levels above one with an enum. -/
def messageTower : Nat → MessageDescriptor
  | 0 => { enums := [{ values := [{ name? := "LAST".toList, number? := some (-1) }] }] }
  | levels + 1 => { name? := "Outer".toList, nested := [messageTower levels] }

/-- A request with an enum as deep as can be read, with a text that is set and empty, and with a path
that leads nowhere. -/
def towerRequest : Request where
  filesToGenerate := ["tower.proto"]
  parameter? := "json".toList
  version? := some { major? := some (-7), suffix? := some [] }
  files :=
    [ { name? := "tower.proto".toList
        messages := [messageTower 96]
        source? := some { locations := [{ path := [4, 0, -1], leading? := "été".toList }] } } ]

/-- A response with the greatest number there is, and a file whose content is set and empty. -/
def emptyFileResponse : Response where
  supportedFeatures? := some 0xffffffffffffffff
  files := [{ name? := "été.rs".toList, content? := some [] }]

/-- A value of the enum stands a hundred levels below the request. -/
theorem messages_decode_encode_tower :
    Field.depthOf towerRequest.toFields = depthLimit ∧
      Request.decode towerRequest.encode = .ok towerRequest ∧
      Response.decode emptyFileResponse.encode = .ok emptyFileResponse := by
  have hdepth : Field.depthOf towerRequest.toFields = depthLimit := by decide +kernel
  refine ⟨hdepth, ?_, ?_⟩
  · exact messages_decode_encode.1 towerRequest (Nat.le_of_eq hdepth) (by decide +kernel)
  · exact messages_decode_encode.2 emptyFileResponse (by decide +kernel)

end Plugin

end EnumCodegen
