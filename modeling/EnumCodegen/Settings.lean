import EnumCodegen.Error
import EnumCodegen.Mode

/-!
# The settings of a run

A run is set up by a parameter: tokens between commas, each either a mode or a placement of the
output. White space around tokens and empty tokens mean nothing.

## Main definitions

* `Mode.read`: the mode that a token requests
* `Settings`: the modes of a run, without repetition, and the placement of its files
* `Settings.ofTokens`: the settings that recognized tokens ask for
* `Settings.parse`: the settings of a parameter

## Main results

* `nodup_eraseDups`: dropping later occurrences leaves no repetition
-/

namespace EnumCodegen

/-- Dropping all later occurrences leaves no repetition. -/
theorem nodup_eraseDups {α : Type} [BEq α] [LawfulBEq α] : ∀ items : List α, items.eraseDups.Nodup
  | [] => by simp
  | a :: rest => by
    rw [List.eraseDups_cons, List.nodup_cons]
    exact ⟨by simp, nodup_eraseDups _⟩
termination_by items => items.length
decreasing_by exact Nat.lt_succ_of_le (List.length_filter_le _ _)

/-- **The mode that a token requests**, or the error that names the token. -/
def Mode.read (token : Text) : Except GenerateError Mode :=
  match Mode.ofToken? token with
  | some mode => .ok mode
  | none => .error (.unsupportedMode token)

/-- **The settings of a run**: the modes to generate, in order, and whether a file's output is
placed beside it rather than where its option says. -/
structure Settings where
  modes : List Mode
  sourceRelative : Bool
  nodup : modes.Nodup
  deriving Repr, DecidableEq

/-- **A token of a parameter.** -/
inductive ParameterToken where
  | mode (mode : Mode)
  | placement (sourceRelative : Bool)
  deriving Repr, DecidableEq

namespace ParameterToken

/-- The token that text spells. -/
def ofText? (text : Text) : Option ParameterToken :=
  if text = "paths=source_relative" then some (placement true)
  else if text = "paths=import" then some (placement false)
  else (Mode.ofToken? text).map mode

/-- The mode a token asks for. -/
def mode? : ParameterToken → Option Mode
  | mode m => some m
  | placement _ => none

/-- The placement a token asks for. -/
def placement? : ParameterToken → Option Bool
  | mode _ => none
  | placement sourceRelative => some sourceRelative

/-- The token that text spells, or the error that names it. -/
def read (text : Text) : Except ParameterError ParameterToken :=
  match ofText? text with
  | some token => .ok token
  | none => .error (.unrecognized text)

end ParameterToken

namespace Settings

/-- The settings with the given modes, each at its first place. -/
def ofModes (modes : List Mode) (sourceRelative : Bool) : Settings :=
  ⟨modes.eraseDups, sourceRelative, nodup_eraseDups modes⟩

/-- **The settings tokens ask for**: all their modes, and the last placement. -/
def ofTokens (tokens : List ParameterToken) : Settings :=
  ofModes (tokens.filterMap (·.mode?)) ((tokens.filterMap (·.placement?)).getLastD false)

/-- **The tokens of a parameter**: what stands between its commas, trimmed, if anything. -/
def tokenTexts (parameter : Text) : List Text :=
  ((parameter.splitOn ',').map (Text.trimmed CharClass.isWhiteSpace)).filter (!·.isEmpty)

/-- **The settings of a parameter.** A blank parameter, then the first unrecognized token, then the
lack of a mode is an error. -/
def parse (parameter : Text) : Except ParameterError Settings := do
  if (Text.trimmed CharClass.isWhiteSpace parameter).isEmpty then
    throw .missing
  let tokens ← (tokenTexts parameter).mapM ParameterToken.read
  let settings := ofTokens tokens
  if settings.modes.isEmpty then
    throw (.noMode parameter)
  return settings

end Settings

end EnumCodegen
