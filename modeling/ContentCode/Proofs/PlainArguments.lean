import ContentCode.CommandLine.Command

/-!
Command lines that have no options, but for the file with the settings in front of the command. What stands
behind the name of a command is then taken as it is.
-/

namespace ContentCode.CommandLine

section plain

variable {options : List OptionName} {arg : String} {args : List String}

theorem readArgument?_plain (h : looksLikeOption arg = false) :
    readArgument? options arg args = some ([.plain arg], args) := by
  rw [readArgument?]
  split
  next text harg =>
    rw [looksLikeOption, harg] at h
    cases h
  next c text _ harg =>
    rw [looksLikeOption, harg] at h
    cases h
  next => rfl

theorem ne_hyphens_of_plain (h : looksLikeOption arg = false) : arg ≠ "--" := by
  rintro rfl
  cases h

theorem isStopped_plain (options : List OptionName) (args : List String) :
    isStopped options (args.map .plain) = false := by
  simp [isStopped]

theorem readAll?_plain (h : ∀ arg ∈ args, looksLikeOption arg = false) :
    readAll? options args.length args = some (args.map .plain) := by
  induction args with
  | nil => rfl
  | cons arg args ih =>
      rw [List.forall_mem_cons] at h
      have hone : isStopped options [.plain arg] = false := isStopped_plain options [arg]
      rw [List.length_cons, readAll?, if_neg (ne_hyphens_of_plain h.1), readArgument?_plain h.1]
      simp [hone, ih h.2]

theorem readFront?_plain (h : looksLikeOption arg = false) (fuel : Nat) :
    readFront? options fuel (arg :: args) = some ([], arg :: args) := by
  cases fuel with
  | zero => rfl
  | succ fuel => simp [readFront?, h]

theorem areValid_plain : areValid options (args.map .plain) = true := by
  rw [areValid, noneRepeated, Bool.and_eq_true, List.all_eq_true, List.all_eq_true, List.forall_mem_map]
  refine ⟨fun o _ => ?_, fun _ _ => rfl⟩
  rw [List.filter_eq_nil_iff.2 (List.forall_mem_map.2 fun _ _ => Bool.false_ne_true)]
  simp

theorem optionValue?_plain (long : String) : optionValue? long (args.map .plain) = none := by
  simp [optionValue?]

end plain

/-- The arguments that name the file with the settings, if it is not the usual one. -/
def configArguments (config : Option String) : List String := config.elim [] fun path => ["--config", path]

def configItems (config : Option String) : List Item := config.elim [] fun path => [.option "config" path true]

/-- An argument that can name a file and is not taken for an option. -/
structure IsFileArgument (arg : String) : Prop where
  plain : looksLikeOption arg = false
  nonempty : isFileName arg = true

section config

variable {config : Option String} {name : String} {args : List String}

theorem readFront?_config (hconfig : ∀ path ∈ config, looksLikeOption path = false)
    (hname : looksLikeOption name = false) (args : List String) :
    readFront? frontOptions (configArguments config ++ name :: args).length (configArguments config ++ name :: args) =
      some (configItems config, name :: args) := by
  cases config with
  | none => exact readFront?_plain hname _
  | some path =>
      have hpath := hconfig path rfl
      have hargument : readArgument? frontOptions "--config" (path :: name :: args) =
          some ([.option "config" path true], name :: args) := by
        have htake : takeValue? (path :: name :: args) = some (path, name :: args) := by
          rw [takeValue?, hpath]
          rfl
        have hlong : longOption? frontOptions "config".toList (path :: name :: args) =
            some (.option "config" path true, name :: args) := by
          change (takeValue? (path :: name :: args)).bind (fun x => some (Item.option "config" x.1 true, x.2)) = _
          rw [htake]
          rfl
        change (longOption? frontOptions "config".toList (path :: name :: args)).map (fun x => ([x.1], x.2)) = _
        rw [hlong]
        rfl
      have hoption : looksLikeOption "--config" = true := rfl
      have hgoes : isStopped frontOptions [.option "config" path true] = false := rfl
      change readFront? frontOptions (args.length + 2 + 1) ("--config" :: path :: name :: args) = _
      rw [readFront?, hargument]
      simp [hoption, hgoes, readFront?_plain hname, configItems]

theorem isStopped_configItems : isStopped frontOptions (configItems config) = false := by
  cases config with
  | none => rfl
  | some path => rfl

theorem areValid_configItems (h : ∀ path ∈ config, isFileName path) :
    areValid frontOptions (configItems config) = true := by
  cases config with
  | none => rfl
  | some path =>
      have hpath : isFileName path = true := h path rfl
      have honce : noneRepeated frontOptions [.option "config" path true] = true := rfl
      have hfind : frontOptions.find? (fun o => o.long = "config") =
          some { textOption "config" 'c' with accepts := isFileName } := rfl
      simp [configItems, areValid, honce, hfind, hpath]

/-- A value that ends the items in front is not looked at before the name of the command. -/
theorem settled_configItems : settled (configItems config) = [] := by
  cases config with
  | none => rfl
  | some path => rfl

theorem optionValue?_configItems :
    optionValue? "config" (configItems config) = config ∧ optionValue? "bits" (configItems config) = none := by
  cases config with
  | none => exact ⟨rfl, rfl⟩
  | some path => exact ⟨rfl, rfl⟩

theorem plain_of_mem_commandNames : ∀ c ∈ commandNames, looksLikeOption c.name = false ∧ c.name ≠ "help" := by
  decide

theorem ofArguments_plain {c : CommandName} {command : Command}
    (hconfig : ∀ path ∈ config, IsFileArgument path)
    (hc : commandNames.find? (fun c => c.name = name) = some c)
    (hargs : ∀ arg ∈ args, looksLikeOption arg = false) (haccepts : c.accepts (args.map .plain) = true)
    (hbuild : c.build (args.map .plain) = some command) :
    Request.ofArguments (configArguments config ++ name :: args) =
      .run ⟨config.getD defaultConfig, none, command⟩ := by
  obtain ⟨hname, hhelp⟩ : looksLikeOption name = false ∧ name ≠ "help" := by
    have hnamed : c.name = name := by simpa using List.find?_some hc
    exact hnamed ▸ plain_of_mem_commandNames c (List.mem_of_find?_eq_some hc)
  have hfront := readFront?_config (fun path hpath => (hconfig path hpath).plain) hname args
  have hvalid := areValid_configItems fun path hpath => (hconfig path hpath).nonempty
  have hnone : areValid frontOptions [] = true := rfl
  have hcommand : Request.ofCommand (configItems config) c args =
      .run ⟨config.getD defaultConfig, none, command⟩ := by
    have hitems : Invocation.ofItems? (configItems config) c (args.map .plain) =
        some ⟨config.getD defaultConfig, none, command⟩ := by
      rw [Invocation.ofItems?, hbuild]
      simp [optionValue?_plain, optionValue?_configItems]
    rw [Request.ofCommand, readAll?_plain hargs]
    simp [areValid_plain, haccepts, isSet, optionValue?_plain, hvalid, hitems]
  rw [Request.ofArguments, hfront]
  simp [isStopped_configItems, settled_configItems, hnone, hhelp, hc, hcommand]

theorem ofArguments_file {options : List OptionName} {build : String → List Item → Option Command}
    {file : String} {command : Command} (hconfig : ∀ path ∈ config, IsFileArgument path)
    (hc : commandNames.find? (fun c => c.name = name) = some (fileCommand name options build))
    (hfile : IsFileArgument file) (hbuild : build file [.plain file] = some command) :
    Request.ofArguments (configArguments config ++ [name, file]) =
      .run ⟨config.getD defaultConfig, none, command⟩ := by
  refine ofArguments_plain hconfig hc ?_ hfile.nonempty hbuild
  rw [List.forall_mem_singleton]
  exact hfile.plain

end config

end ContentCode.CommandLine
