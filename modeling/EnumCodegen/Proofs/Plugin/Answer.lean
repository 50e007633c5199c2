import EnumCodegen.Plugin.Exchange
import EnumCodegen.Proofs.Generation.Run
import EnumCodegen.Proofs.Reports

/-!
# What a request is answered with

Generation is all or nothing, and of several faults in a request one is blamed: its parameter before
any file, and of the files to generate the first that is not described. A request without a fault is
answered with the outputs of its run.

## Main definitions

* `Plugin.Response.refusal`, `Plugin.Response.ofOutputs`: the responses without and with outputs
* `Plugin.Request.Due`: the response that is due to a request

## Main results

* `Plugin.respond_eq_refusal_iff`: a response tells why a run failed
* `Plugin.due_iff`: every request is answered with the one response that is due to it
-/

namespace EnumCodegen.Plugin

/-- **The response that reports an error**: it holds no file. -/
def Response.refusal (cause : GenerateError) : Response where
  error? := some cause.message
  supportedFeatures? := some 1
  files := []

/-- **The response that hands over outputs**, each as a whole file. -/
def Response.ofOutputs (outputs : List OutputFile) : Response where
  error? := none
  supportedFeatures? := some 1
  files := outputs.map fun output => ⟨some output.name, none, some output.content⟩

namespace Request

/-- Whether a description of the file is part of the request. -/
def IsDescribed (request : Request) (name : Text) : Prop :=
  ∃ file ∈ request.files, file.name = name

instance (request : Request) (name : Text) : Decidable (request.IsDescribed name) :=
  inferInstanceAs (Decidable (∃ file ∈ request.files, file.name = name))

/-- **The response that is due to a request.** -/
inductive Due (request : Request) : Response → Prop where
  /-- A parameter that cannot be read is reported, whatever the files to generate are. -/
  | parameter {cause : ParameterError} (hparse : Settings.parse request.parameter = .error cause) :
      request.Due (.refusal (.parameter cause))
  /-- The first file to generate that is not described is reported. -/
  | unknownFile {settings : Settings} {before after : List Text} {name : Text}
      (hparse : Settings.parse request.parameter = .ok settings)
      (hnames : request.filesToGenerate = before ++ name :: after)
      (hbefore : ∀ earlier ∈ before, request.IsDescribed earlier)
      (hname : ¬request.IsDescribed name) :
      request.Due (.refusal (.unknownFile name))
  /-- The outputs of the run are handed over. -/
  | outputs {settings : Settings} {outputs : List OutputFile}
      (hparse : Settings.parse request.parameter = .ok settings)
      (hnames : ∀ name ∈ request.filesToGenerate, request.IsDescribed name)
      (houtputs : (generateWith request.files request.filesToGenerate settings).result =
        .ok outputs) :
      request.Due (.ofOutputs outputs)

end Request

variable {request : Request} {response : Response}

/-! ## The response to a run -/

theorem respond_of_error {cause : GenerateError}
    (h : (generate request.files request.filesToGenerate request.parameter).result =
      .error cause) : (respond request).response = .refusal cause := by
  simp only [respond, h]
  rfl

theorem respond_of_ok {outputs : List OutputFile}
    (h : (generate request.files request.filesToGenerate request.parameter).result =
      .ok outputs) : (respond request).response = .ofOutputs outputs := by
  simp only [respond, h]
  rfl

/-- Refusals for different causes differ, since their reports do. -/
theorem Response.refusal_injective : Function.Injective Response.refusal := by
  intro cause cause' h
  have hreport : some cause.message = some cause'.message := congrArg Response.error? h
  exact GenerateError.message_injective (Option.some.inj hreport)

/-- **A response tells why a run failed**: it is the refusal for the cause, and for no other. -/
theorem respond_eq_refusal_iff (cause : GenerateError) :
    (respond request).response = .refusal cause ↔
      (generate request.files request.filesToGenerate request.parameter).result =
        .error cause := by
  constructor
  · intro h
    cases hresult : (generate request.files request.filesToGenerate request.parameter).result with
    | error cause' =>
      rw [respond_of_error hresult] at h
      rw [Response.refusal_injective h]
    | ok outputs =>
      -- the response to a run with outputs reports nothing
      have herror := congrArg Response.error? ((respond_of_ok hresult).symm.trans h)
      cases herror
  · exact respond_of_error

/-- A run whose parameter can be read is the run with its settings. -/
theorem generate_of_parse {settings : Settings}
    (h : Settings.parse request.parameter = .ok settings) :
    generate request.files request.filesToGenerate request.parameter =
      generateWith request.files request.filesToGenerate settings := by
  rw [generate, h]

/-! ## The response that is due -/

theorem Request.Due.supportedFeatures?_eq (h : request.Due response) :
    response.supportedFeatures? = some 1 := by
  cases h <;> rfl

/-- **The response that is due is given.** -/
theorem Request.Due.eq_respond (h : request.Due response) :
    response = (respond request).response := by
  symm
  cases h with
  | parameter hparse =>
    apply respond_of_error
    rw [generate, hparse]
  | unknownFile hparse hnames hbefore hname =>
    apply respond_of_error
    rw [generate_of_parse hparse, hnames, generateWith, lookUp_eq_error hbefore hname]
  | outputs hparse _ houtputs =>
    apply respond_of_ok
    rw [generate_of_parse hparse, houtputs]

/-- **A response is due to every request.** -/
theorem Request.exists_due (request : Request) : ∃ response, request.Due response := by
  cases hparse : Settings.parse request.parameter with
  | error cause => exact ⟨_, .parameter hparse⟩
  | ok settings =>
    -- the first file to generate that is not described, if there is one, is the one to blame
    rcases described_or_exists_first request.files request.filesToGenerate with
      hnames | ⟨before, name, after, hnames, hbefore, hname⟩
    · obtain ⟨targets, htargets, -⟩ := lookUp_eq_ok hnames
      exact ⟨_, .outputs hparse hnames (generateWith_result htargets settings)⟩
    · exact ⟨_, .unknownFile hparse hnames hbefore hname⟩

/-- **Every request is answered with the one response that is due to it.** Every response announces
that fields of the third dialect may be optional. If the parameter cannot be read, the response
reports this and holds no file, whatever the files to generate are. Else, if a file to generate is not
described, it reports the first such file and holds no file. Else it reports no error and holds the
outputs of the run, in order, by their names and contents. -/
theorem due_iff (request : Request) :
    (respond request).response.supportedFeatures? = some 1 ∧
      ∀ response, request.Due response ↔ response = (respond request).response := by
  -- a response is due, and whatever is due is given, so nothing else is due
  obtain ⟨given, hgiven⟩ := request.exists_due
  obtain rfl := hgiven.eq_respond
  constructor
  · exact hgiven.supportedFeatures?_eq
  · intro response
    constructor
    · exact Request.Due.eq_respond
    · rintro rfl
      exact hgiven

end EnumCodegen.Plugin
