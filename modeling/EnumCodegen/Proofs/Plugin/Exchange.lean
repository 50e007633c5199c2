import EnumCodegen.Plugin.Exchange
import EnumCodegen.Proofs.Plugin.Encoding

/-!
# What the exchange hands out

The exchange adds nothing to the answer and takes nothing from it. It fails on the bytes that are no
request, for the cause that decoding gives, and on no other: errors of generation are part of the
response. What it hands out is read as the response it was made from, with every name, content and
error text as it was.

## Main results

* `Plugin.exchange_eq_error_iff`: the exchange fails as decoding does
* `Plugin.exchange_reports`: else the response is handed out
-/

namespace EnumCodegen.Plugin

open Protobuf

variable {input : Bytes}

/-- What is handed out for a request. -/
theorem exchange_of_decode {request : Request} (h : Request.decode input = .ok request) :
    exchange input = .ok ((respond request).response.encode, (respond request).notices) := by
  rw [exchange, h]

/-- **The exchange fails as decoding does**, for the same cause. -/
theorem exchange_eq_error_iff (error : ExchangeError) :
    exchange input = .error error ↔ Request.decode input = .error error.cause := by
  cases hdecode : Request.decode input with
  | error cause =>
    rw [exchange, hdecode]
    constructor
    · rintro ⟨⟩
      rfl
    · rintro ⟨⟩
      rfl
  | ok request =>
    rw [exchange_of_decode hdecode]
    constructor <;> rintro ⟨⟩

/-- **The exchange reports the answer and nothing else.** It fails on just the bytes that are no
request, for the cause that decoding gives. For any request it hands out the encoded response, and what
it hands out is read as this response. Lengths end at `numberBound`, so reading takes that the bytes are
fewer, as all bytes in a memory are. -/
theorem exchange_reports (input : Bytes) :
    (∀ error, exchange input = .error error ↔ Request.decode input = .error error.cause) ∧
      ∀ request, Request.decode input = .ok request →
        ∃ output, exchange input = .ok (output, (respond request).notices) ∧
          output = (respond request).response.encode ∧
          (output.length < numberBound →
            Response.decode output = .ok (respond request).response) := by
  constructor
  · exact exchange_eq_error_iff
  · intro request hdecode
    exact ⟨_, exchange_of_decode hdecode, rfl, (respond request).response.decode_encode⟩

/-- A request for the declaration of one enum, in a file whose name has letters of two bytes. -/
def couleurRequest : Request where
  filesToGenerate := ["été.proto"]
  parameter? := "gql".toList
  files :=
    [ { name? := "été.proto".toList
        enums :=
          [ { name? := "Couleur".toList
              values := [{ name? := "COULEUR_ROUGE".toList, number? := some 0 }] } ] } ]

/-- The declaration is handed out, and an unfinished request is refused. -/
theorem exchange_reports_couleur :
    (∃ output notices, exchange couleurRequest.encode = .ok (output, notices) ∧
      Response.decode output = .ok (respond couleurRequest).response) ∧
    (respond couleurRequest).response.files.map (·.name?) = ["été.enums.gql.rs".toList] ∧
    exchange [10] = .error ⟨⟨.invalidVarint, [("CodeGeneratorRequest", "file_to_generate")]⟩⟩ := by
  have hrequest : Request.decode couleurRequest.encode = .ok couleurRequest :=
    Request.decode_encode couleurRequest (by decide +kernel) (by decide +kernel)
  have hlength : (respond couleurRequest).response.encode.length < numberBound := by
    decide +kernel
  obtain ⟨output, houtput, rfl, hread⟩ :=
    (exchange_reports couleurRequest.encode).2 couleurRequest hrequest
  refine ⟨⟨_, _, houtput, hread hlength⟩, by decide +kernel, ?_⟩
  exact ((exchange_reports [10]).1 _).mpr rfl

end EnumCodegen.Plugin
