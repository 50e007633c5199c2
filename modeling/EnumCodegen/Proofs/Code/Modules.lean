import EnumCodegen.Proofs.Code.Lines
import EnumCodegen.Proofs.Text.Quoted
import Mathlib.Data.List.Infix

/-!
# The modules that generated code defines

A module stands in lines of code as a head, an indented body and a closing brace. Since all of its
body is indented, its end is the first brace that is not, and no line of it is taken for the head of
another module of the same level. A function stands there in the same way, with its brace on a line of
its own. A binding consists of a node and of a re-export, which names the module that serves the
field; that module defines the two functions that are re-exported.

## Main definitions

* `Code.DefinedModule`, `Code.modules`: the modules that lines of code define
* `Code.readModules`: the modules that the text of code defines
* `Code.DefinedFunction`, `Code.functions`: the functions that lines of code define
* `Code.DefinedModule.parts`, `Code.DefinedModule.exports`: the modules in a module, and the paths
  that it re-exports
* `Code.DefinedModule.IsAdapter`: a module of the two functions of an adapter
* `AdapterModule.defined`, `FieldBinding.defined`: the modules of adapters and of bindings

## Main results

* `Code.modules_moduleBlock`: a module is found from its lines, whatever follows
* `Code.functions_functionLines`: the functions in the lines of an adapter, and what they call
* `AdapterModule.isAdapter_defined`, `AdapterModule.parts_defined`: a module of adapters and its
  parts are adapters
* `FieldBinding.defined_eq_iff`: what the module of a binding determines
* `EnumSchema.modules_codeLines`: the modules in the code for a file
* `EnumSchema.readModules_xmlCode`: the modules in the text of the XML code for a file
-/

namespace EnumCodegen

namespace Code

/-- **A module** in lines of code: its name, and the lines of its body as they stand on the outermost
level. -/
structure DefinedModule where
  name : Text
  body : List Text
  deriving Repr, DecidableEq

/-- The name in a line that is the head of a module on the outermost level. -/
def moduleName? (line : Text) : Option Text :=
  (("pub mod " : Text).isPrefixOf? line).bind fun rest => (" \x7b" : Text).isSuffixOf? rest

/-- A line one level further out. -/
def outdented (line : Text) : Text :=
  (("    " : Text).isPrefixOf? line).getD line

/-- **The modules that lines of code define** on their outermost level. The body of a module ends at
the first closing brace of that level. -/
def modules : List Text → List DefinedModule
  | [] => []
  | line :: rest =>
    match moduleName? line with
    | some name => ⟨name, (rest.takeWhile (· ≠ "\x7d".toList)).map outdented⟩ :: modules rest
    | none => modules rest

/-- **The modules that the text of code defines**, cut into lines at its line feeds. -/
def readModules (code : Text) : List DefinedModule :=
  modules (code.splitOn '\n')

/-- **A function** in lines of code: its name, and the lines of its body as they stand on the
outermost level. -/
structure DefinedFunction where
  name : Text
  body : List Text
  deriving Repr, DecidableEq

/-- The name in a line that begins a function on the outermost level. It ends where the parameters
begin. -/
def functionName? (line : Text) : Option Text :=
  (("pub fn " : Text).isPrefixOf? line).map (·.takeWhile fun c => c ≠ '<' ∧ c ≠ '(')

/-- **The functions that lines of code define** on their outermost level. The body of a function
stands between the first opening brace of that level and the first closing brace behind it. -/
def functions : List Text → List DefinedFunction
  | [] => []
  | line :: rest =>
    match functionName? line with
    | some name =>
      let behind := (rest.dropWhile (· ≠ "\x7b".toList)).tail
      ⟨name, (behind.takeWhile (· ≠ "\x7d".toList)).map outdented⟩ :: functions rest
    | none => functions rest

/-- The modules in a module. -/
def DefinedModule.parts (defined : DefinedModule) : List DefinedModule :=
  modules defined.body

/-- The functions in a module. -/
def DefinedModule.functions (defined : DefinedModule) : List DefinedFunction :=
  Code.functions defined.body

/-- **An adapter**: a module whose functions are one that writes a value and one that reads it. -/
def DefinedModule.IsAdapter (defined : DefinedModule) : Prop :=
  defined.functions.map (·.name) = ["serialize".toList, "deserialize".toList]

/-- The path in a line that re-exports the functions of an adapter. -/
def exportedPath? (line : Text) : Option Text :=
  (("pub use super::" : Text).isPrefixOf? line).bind fun rest =>
    ("::\x7bdeserialize, serialize\x7d;" : Text).isSuffixOf? rest

/-- **The adapters that a module re-exports**, by their paths. -/
def DefinedModule.exports (defined : DefinedModule) : List Text :=
  defined.body.filterMap exportedPath?

/-! ## Lines -/

theorem moduleName?_head (name : Text) :
    moduleName? ("pub mod " ++ name ++ " \x7b") = some name := by
  have hbegin : ("pub mod " : Text).isPrefixOf? ("pub mod " ++ name ++ " \x7b") =
      some (name ++ " \x7b") := by
    rw [List.isPrefixOf?_eq_some_iff_append_eq, List.append_assoc]
  rw [moduleName?, hbegin, Option.bind_some, List.isSuffixOf?_eq_some_iff_append_eq]

theorem exportedPath?_line (path : Text) :
    exportedPath? ("pub use super::" ++ path ++ "::\x7bdeserialize, serialize\x7d;") =
      some path := by
  have hbegin : ("pub use super::" : Text).isPrefixOf?
      ("pub use super::" ++ path ++ "::\x7bdeserialize, serialize\x7d;") =
        some (path ++ "::\x7bdeserialize, serialize\x7d;") := by
    rw [List.isPrefixOf?_eq_some_iff_append_eq, List.append_assoc]
  rw [exportedPath?, hbegin, Option.bind_some, List.isSuffixOf?_eq_some_iff_append_eq]

/-- An indented line is no head of the outermost level. -/
theorem moduleName?_indented (line : Text) : moduleName? (indented line) = none := by
  cases line <;> rfl

/-- An indented line is no closing brace of the outermost level. -/
theorem indented_ne_brace (line : Text) : indented line ≠ "\x7d" := by
  cases line with
  | nil => simp [indented]
  | cons c line => simp [indented]

theorem outdented_indented (line : Text) : outdented (indented line) = line := by
  cases line <;> rfl

/-! ## Blocks -/

/-- Lines without a head define no module. -/
theorem modules_append {lines : List Text} (h : ∀ line ∈ lines, moduleName? line = none)
    (rest : List Text) : modules (lines ++ rest) = modules rest := by
  induction lines with
  | nil => rfl
  | cons line lines ih =>
    obtain ⟨hline, hlines⟩ := List.forall_mem_cons.mp h
    rw [List.cons_append, modules, hline]
    exact ih hlines

/-- **A block with another head** defines no module, whatever stands in it. -/
theorem modules_block {head close : Text} (hhead : moduleName? (head ++ " \x7b") = none)
    (hclose : moduleName? close = none) (body rest : List Text) :
    modules (block head body close ++ rest) = modules rest := by
  apply modules_append
  rw [forall_mem_block]
  exact ⟨hhead, fun line _ => moduleName?_indented line, hclose⟩

/-- **A block with the head of a module** is that module, whatever follows. -/
theorem modules_block_head (name : Text) (body rest : List Text) :
    modules (block ("pub mod " ++ name) body "\x7d" ++ rest) = ⟨name, body⟩ :: modules rest := by
  -- no indented line is the closing brace, and none is the head of a further module
  have hbody : (body.map indented ++ (["\x7d".toList] ++ rest)).takeWhile (· ≠ "\x7d".toList) =
      body.map indented := by
    rw [List.takeWhile_append_of_pos]
    · rw [List.singleton_append, List.takeWhile_cons_of_neg (by simp), List.append_nil]
    · rw [List.forall_mem_map]
      exact fun line _ => decide_eq_true (indented_ne_brace line)
  have hout : (body.map indented).map outdented = body := by
    rw [List.map_map]
    exact List.map_id'' outdented_indented body
  have hrest : modules (body.map indented ++ (["\x7d".toList] ++ rest)) = modules rest := by
    rw [modules_append (List.forall_mem_map.mpr fun line _ => moduleName?_indented line)]
    rfl
  rw [block, List.cons_append, List.cons_append, modules, moduleName?_head]
  simp only [List.append_assoc, hbody, hout, hrest]

/-- **A module is found from its lines**, whatever follows. -/
theorem modules_moduleBlock (name : Text) (body rest : List Text) :
    modules (moduleBlock name body ++ rest) = ⟨name, body⟩ :: modules rest := by
  have hexempt : ∀ line ∈ (if Text.holds "__" name then ["#[allow(non_snake_case)]".toList] else []),
      moduleName? line = none := by
    intro line hline
    split at hline
    · rw [List.mem_singleton.mp hline]
      rfl
    · simp at hline
  rw [moduleBlock, List.append_assoc, modules_append hexempt]
  exact modules_block_head name body rest

/-! ## Functions -/

/-- An indented line begins no function of the outermost level. -/
theorem functionName?_indented (line : Text) : functionName? (indented line) = none := by
  cases line <;> rfl

theorem functions_eq_nil {lines : List Text} (h : ∀ line ∈ lines, functionName? line = none) :
    functions lines = [] := by
  induction lines with
  | nil => rfl
  | cons line lines ih =>
    obtain ⟨hline, hlines⟩ := List.forall_mem_cons.mp h
    rw [functions, hline]
    exact ih hlines

/-- **The lines of an adapter** are those of two functions. Each of them calls its namesake in the
module that serves it, for the type of the enum. -/
theorem functions_functionLines (serving typePath reference owned : Text) (rest : List Text) :
    functions (functionLines serving typePath reference owned ++ rest) =
      ⟨"serialize".toList,
        [serving ++ "::serialize::<" ++ typePath ++ ", S>(value, serializer)"]⟩ ::
      ⟨"deserialize".toList,
        [serving ++ "::deserialize::<" ++ typePath ++ ", D>(deserializer)"]⟩ :: functions rest := by
  -- names and bodies end at fixed parts of the lines, whatever the paths and types are
  rfl

/-- A module that begins with these lines and defines no further function is an adapter. -/
theorem isAdapter_functionLines {serving typePath reference owned : Text} {rest : List Text}
    (hrest : ∀ line ∈ rest, functionName? line = none) (name : Text) :
    DefinedModule.IsAdapter
      ⟨name, functionLines serving typePath reference owned ++ rest⟩ := by
  rw [DefinedModule.IsAdapter, DefinedModule.functions, functions_functionLines,
    functions_eq_nil hrest]
  rfl

end Code

open Code

/-! ## Items -/

/-- **The module of adapters** in code: functions for the numbers of an enum, and parts for optional
numbers and for lists of numbers. -/
def AdapterModule.defined (adapters : AdapterModule) : DefinedModule where
  name := adapters.name
  body :=
    let serving : Text := "::enumwire_runtime::" ++ adapters.format.tag
    let part (name reference owned : Text) : List Text :=
      block ("pub mod " ++ name)
        (functionLines (serving ++ "::" ++ name) ("super::super::" ++ adapters.typePath) reference
          owned) "\x7d"
    functionLines serving ("super::" ++ adapters.typePath) "&i32" "i32" ++ [[]] ++
      part "option" "&::core::option::Option<i32>" "::core::option::Option<i32>" ++ [[]] ++
      part "vec" "&[i32]" "::std::vec::Vec<i32>"

/-- **The module of a binding** in code: the node, and the re-export of the adapter. -/
def FieldBinding.defined (binding : FieldBinding) : DefinedModule where
  name := binding.name
  body :=
    [ "pub const XML_NODE: ::enumwire_runtime::XmlNode = ::enumwire_runtime::XmlNode::" ++
        binding.node.expression ++ ";",
      [],
      "pub use super::" ++ binding.adapter ++ "::\x7bdeserialize, serialize\x7d;" ]

theorem TraitImpl.modules_lines (impl : TraitImpl) (rest : List Text) :
    modules (impl.lines ++ rest) = modules rest :=
  modules_block rfl rfl _ _

theorem AdapterModule.modules_lines (adapters : AdapterModule) (rest : List Text) :
    modules (adapters.lines ++ rest) = adapters.defined :: modules rest :=
  modules_moduleBlock adapters.name adapters.defined.body rest

theorem FieldBinding.modules_lines (binding : FieldBinding) (rest : List Text) :
    modules (binding.lines ++ rest) = binding.defined :: modules rest :=
  modules_moduleBlock binding.name binding.defined.body rest

/-- **The expression for a node determines it.** -/
theorem XmlNode.expression_injective : Function.Injective XmlNode.expression := by
  have hname {kind name name' : Text}
      (h : kind ++ name.quoted ++ [')'] = kind ++ name'.quoted ++ [')']) : name = name' :=
    Text.quoted_injective (List.append_cancel_left (List.append_cancel_right h))
  intro node node' h
  cases node with
  | element name =>
    cases node' with
    | element name' => rw [hname h]
    | «attribute» name' =>
      have hinitial : some 'E' = some 'A' := congrArg List.head? h
      exact absurd hinitial (by decide)
  | «attribute» name =>
    cases node' with
    | element name' =>
      have hinitial : some 'A' = some 'E' := congrArg List.head? h
      exact absurd hinitial (by decide)
    | «attribute» name' => rw [hname h]

/-- **The module of a binding** determines its node and the path of its adapter. -/
theorem FieldBinding.defined_eq_iff {binding binding' : FieldBinding} :
    binding.defined = binding'.defined ↔ binding.name = binding'.name ∧
      binding.node = binding'.node ∧ binding.adapter = binding'.adapter := by
  constructor
  · intro h
    obtain ⟨hname, hbody⟩ := DefinedModule.mk.inj h
    obtain ⟨hconstant, hbehind⟩ := List.cons.inj hbody
    obtain ⟨hexport, -⟩ := List.cons.inj (List.cons.inj hbehind).2
    have hexpression := List.append_cancel_left (List.append_cancel_right hconstant)
    exact ⟨hname, XmlNode.expression_injective hexpression,
      List.append_cancel_left (List.append_cancel_right hexport)⟩
  · rintro ⟨hname, hnode, hadapter⟩
    unfold defined
    rw [hname, hnode, hadapter]

/-- A binding re-exports one adapter. -/
theorem FieldBinding.exports_defined (binding : FieldBinding) :
    binding.defined.exports = [binding.adapter] := by
  rw [DefinedModule.exports, defined, List.filterMap_cons_none rfl, List.filterMap_cons_none rfl,
    List.filterMap_cons_some (exportedPath?_line _), List.filterMap_nil]

theorem moduleName?_of_mem_functionLines {serving typePath reference owned : Text} :
    ∀ line ∈ functionLines serving typePath reference owned, moduleName? line = none := by
  simp only [functionLines, List.forall_mem_cons, List.not_mem_nil, false_implies, implies_true,
    and_true]
  refine ⟨?_, ?_, ?_, ?_, ?_, ?_, ?_, ?_, ?_, ?_, ?_, ?_, ?_⟩ <;> rfl

/-- **A module of adapters is an adapter** for numbers. -/
theorem AdapterModule.isAdapter_defined (adapters : AdapterModule) :
    adapters.defined.IsAdapter := by
  have hpart (name : Text) (body : List Text) :
      ∀ line ∈ block ("pub mod " ++ name) body "\x7d", functionName? line = none := by
    rw [forall_mem_block]
    exact ⟨rfl, fun line _ => functionName?_indented line, rfl⟩
  simp only [defined, List.append_assoc]
  apply isAdapter_functionLines
  -- behind the functions there are empty lines and the parts
  simp only [List.forall_mem_append, List.forall_mem_singleton]
  exact ⟨rfl, hpart _ _, rfl, hpart _ _⟩

/-- **The parts of a module of adapters** are one for optional numbers and one for lists of numbers,
and both are adapters. -/
theorem AdapterModule.parts_defined (adapters : AdapterModule) :
    adapters.defined.parts.map (·.name) = ["option".toList, "vec".toList] ∧
      ∀ part ∈ adapters.defined.parts, part.IsAdapter := by
  have hempty (lines : List Text) : modules ([[]] ++ lines) = modules lines := rfl
  have hlast (name : Text) (body : List Text) :
      modules (block ("pub mod " ++ name) body "\x7d") = [⟨name, body⟩] := by
    simpa [modules] using modules_block_head name body []
  have hadapter (name serving typePath reference owned : Text) :
      DefinedModule.IsAdapter ⟨name, functionLines serving typePath reference owned⟩ := by
    rw [← List.append_nil (functionLines _ _ _ _)]
    exact isAdapter_functionLines (List.forall_mem_nil _) name
  simp only [DefinedModule.parts, defined, List.append_assoc]
  rw [modules_append moduleName?_of_mem_functionLines, hempty, modules_block_head, hempty, hlast]
  simp only [List.forall_mem_cons, List.not_mem_nil, false_implies, implies_true, and_true]
  exact ⟨rfl, hadapter _ _ _ _ _, hadapter _ _ _ _ _⟩

/-- The module that an item defines, if it defines one. -/
def Item.defined? : Item → Option DefinedModule
  | traitImpl _ => none
  | adapter a => some a.defined
  | binding b => some b.defined
  | constant _ => none

theorem Item.modules_lines (item : Item) (rest : List Text) :
    modules (item.lines ++ rest) = item.defined?.toList ++ modules rest := by
  cases item with
  | traitImpl impl => exact impl.modules_lines rest
  | adapter adapters => exact adapters.modules_lines rest
  | binding binding => exact binding.modules_lines rest
  | constant constant => rfl

namespace EnumSchema

variable {file : EnumSchema}

/-- **The modules in the code for a file** are those that its items define, in order. -/
theorem modules_codeLines (file : EnumSchema) (mode : Mode) (rest : List Text) :
    modules (file.codeLines mode ++ rest) =
      (file.items mode).filterMap Item.defined? ++ modules rest := by
  have hheader : ∀ line ∈ file.headerLines mode, moduleName? line = none := by
    simp only [headerLines, List.forall_mem_cons, List.not_mem_nil, false_implies, implies_true,
      and_true]
    refine ⟨?_, ?_, ?_⟩ <;> rfl
  rw [codeLines, List.append_assoc, modules_append hheader]
  induction file.items mode with
  | nil => rfl
  | cons item items ih =>
    -- the empty line before an item is no head of a module
    have hempty (lines : List Text) : modules ([] :: lines) = modules lines := rfl
    rw [List.flatMap_cons, List.cons_append, List.cons_append, hempty, List.append_assoc,
      Item.modules_lines, ih]
    cases h : item.defined? with
    | none => rw [List.filterMap_cons_none h]; rfl
    | some defined => rw [List.filterMap_cons_some h]; rfl

/-- **The modules in the text of the XML code for a file** are those in its lines, if no name in a
comment holds a line feed. -/
theorem readModules_xmlCode (hname : '\n' ∉ file.name)
    (hfields : ∀ field ∈ file.fields, '\n' ∉ field.node.name ∧
      ∀ name ∈ field.messagePath ++ [field.name], '\n' ∉ name) :
    readModules (text (file.codeLines .xml)) = modules (file.codeLines .xml) := by
  -- behind the last line feed the text has an empty piece, which is no module
  have hlast : modules [[]] = [] := rfl
  rw [readModules, splitOn_text (areLines_codeLines hname hfields), modules_codeLines, hlast,
    ← List.append_nil (file.codeLines .xml), modules_codeLines]
  rfl

end EnumSchema

end EnumCodegen
