import ContentCode.Proofs.PlainArguments
import ContentCode.Proofs.PrintedReports
import ContentCode.Proofs.StreamedSum

/-!
The commands on a file agree. What they print is made of the bytes of the file and the number of bits, and
of nothing else: not of the buffer, nor of the way by which the bytes come. No file with settings can ask for
a buffer that memory cannot hold.
-/

namespace ContentCode

theorem Input.toBytes_eq (input : Input) : input.toBytes = match input.failure? with
    | some text => .error (.io text)
    | none => .ok input.bytesRead := by
  have hsize : 8192 ≠ 0 := by decide
  have hall : [] ++ (input.deliver 8192).1.flatten = (input.deliver 8192).1.foldl (· ++ ·) [] :=
    foldl_covers _ (fun s bytes => bytes = s) (fun _ _ more hs => congrArg (· ++ more) hs) rfl _
  have hbytes : input.toBytes = match input.failure? with
      | some text => .error (.io text)
      | none => .ok ((input.deliver 8192).1.foldl (· ++ ·) []) := absorbAll_eq _ hsize [] input
  rw [hbytes, ← hall, List.nil_append, (deliver_eq hsize input).1]

theorem Input.toBytes_eq_ok {input : Input} {bytes : List UInt8} :
    input.toBytes = .ok bytes ↔ input.failure? = none ∧ input.bytesRead = bytes := by
  rw [toBytes_eq]
  cases input.failure? with
  | some text => simp
  | none => simp

namespace CommandLine

def Environment.Holds (env : Environment) (file : String) (content : List UInt8) : Prop :=
  ∃ input, env.openInput file = .ok input ∧ input.toBytes = .ok content

theorem holds_hyphen {env : Environment} {content : List UInt8} (h : env.standardInput.toBytes = .ok content) :
    env.Holds "-" content :=
  ⟨env.standardInput, rfl, h⟩

theorem holds_file {env : Environment} {file : String} {input : Input} {content : List UInt8}
    (hfile : isStandardInput file = false) (hinput : env.file file = some input)
    (h : input.toBytes = .ok content) : env.Holds file content := by
  refine ⟨input, ?_, h⟩
  rw [Environment.openInput, hfile, hinput]
  rfl

def setting? (text key : String) : Option Toml.Value := do
  (← (← Toml.read? text).get? "gen").get? key

/-- The text of a file that sets everything there is to set, as in `s`. -/
structure SetsAll (text : String) (s : Settings) : Prop where
  bits : ((setting? text "bits").bind Toml.Value.integer?).map Int64.toInt = some (s.bits : Int)
  wide : (setting? text "wide").bind Toml.Value.bool? = some s.wide
  bufferSize : ((setting? text "buffer_size").bind Toml.Value.integer?).map Int64.toInt =
    some (s.bufferSize.toNat : Int)

theorem SetsAll.bufferSize_lt {text : String} {s : Settings} (h : SetsAll text s) :
    s.bufferSize.toNat < 2 ^ 63 := by
  obtain ⟨n, -, hn⟩ := Option.map_eq_some_iff.1 h.bufferSize
  have hmax := Int64.toInt_lt n
  omega

theorem settingsOfText_of_setsAll {text : String} {s : Settings} (h : SetsAll text s) (hbits : s.bits < 2 ^ 32) :
    settingsOfText text = .ok s := by
  obtain ⟨hb, hw, hs⟩ := h
  obtain ⟨b, hb, hbvalue⟩ := Option.map_eq_some_iff.1 hb
  obtain ⟨n, hs, hnvalue⟩ := Option.map_eq_some_iff.1 hs
  obtain ⟨value, hget, -⟩ := Option.bind_eq_some_iff.1 hb
  obtain ⟨root, hread, hroot⟩ := Option.bind_eq_some_iff.1 hget
  obtain ⟨table, htable, -⟩ := Option.bind_eq_some_iff.1 hroot
  have hkey (key : String) : setting? text key = table.get? key := by
    simp [setting?, hread, htable]
  rw [hkey] at hb hw hs
  have hrange : 0 ≤ (s.bits : Int) ∧ (s.bits : Int) < Int.pow 2 32 :=
    ⟨Int.natCast_nonneg _, Int.ofNat_lt.2 hbits⟩
  have hsize : 0 ≤ (s.bufferSize.toNat : Int) := Int.natCast_nonneg _
  rw [settingsOfText, hread]
  simp only [htable, applyTable, hb, hw, hs, hbvalue, hnvalue, if_pos hrange, if_pos hsize, Int.toNat_natCast,
    UInt64.ofNat_toNat]
  rfl

section commands

variable {env : Environment} {file : String} {content : List UInt8} {s : Settings}

theorem exists_absorbFile {σ : Type} (absorb : σ → List UInt8 → σ) (Covers : σ → List UInt8 → Prop)
    (habsorb : ∀ s bytes more, Covers s bytes → Covers (absorb s more) (bytes ++ more)) {start : σ}
    (hstart : Covers start []) (hsize : s.bufferSize ≠ 0) (hroom : s.bufferSize.toNat < 2 ^ 63)
    (h : env.Holds file content) : ∃ state, absorbFile env file s absorb start = .ok state ∧ Covers state content := by
  obtain ⟨input, hopen, hbytes⟩ := h
  obtain ⟨hinput, rfl⟩ := Input.toBytes_eq_ok.1 hbytes
  have hpositive : s.bufferSize.toNat ≠ 0 := fun hzero => hsize (UInt64.toNat_inj.1 hzero)
  obtain ⟨state, hall, hstate⟩ := Input.absorbAll_covers absorb Covers habsorb hstart hpositive hinput
  refine ⟨state, ?_, hstate⟩
  rw [absorbFile, hopen, Input.buffer?_of_lt hroom]
  change attempt _ (input.absorbAll absorb s.bufferSize.toNat start) = _
  rw [hall]
  rfl

theorem data_eq {code : DataCode} (hvalid : s.validate = .ok ()) (hroom : s.bufferSize.toNat < 2 ^ 63)
    (h : env.Holds file content) (hcode : DataCode.generate content s.bits = .ok code) :
    data env file s = .ok (printJson (Report.ofIscc code.iscc)) := by
  obtain ⟨hbits, hsize⟩ := Settings.validate_eq_ok.1 hvalid
  obtain ⟨state, hstate, hcovers⟩ := exists_absorbFile DataState.absorb DataState.Covers
    (fun _ _ more hs => hs.absorb more) DataState.covers_new hsize hroom h
  obtain ⟨code', hcode', hfinish⟩ := hcovers.finish hbits
  rw [hcode, Except.ok.injEq] at hcode'
  subst hcode'
  rw [data, hstate]
  change (attempt _ (state.finish s.bits).1 >>= fun code => pure (printJson (Report.ofIscc code.iscc))) = _
  rw [hfinish]
  rfl

theorem inst_eq {code : InstanceCode} (hvalid : s.validate = .ok ()) (hroom : s.bufferSize.toNat < 2 ^ 63)
    (h : env.Holds file content) (hcode : InstanceCode.generate content s.bits = .ok code) :
    inst env file s = .ok (printJson (Report.ofInstance code)) := by
  obtain ⟨-, hsize⟩ := Settings.validate_eq_ok.1 hvalid
  have hnew : InstanceState.new.Covers [] := ⟨rfl, rfl⟩
  obtain ⟨state, hstate, hcovers⟩ := exists_absorbFile InstanceState.absorb InstanceState.Covers
    (fun _ _ more hs => hs.absorb more) hnew hsize hroom h
  rw [inst, hstate]
  change (attempt _ (state.finish s.bits).1 >>= fun code => pure (printJson (Report.ofInstance code))) = _
  rw [hcovers.finish, hcode]
  rfl

theorem sum_eq (hvalid : s.validate = .ok ()) (hroom : s.bufferSize.toNat < 2 ^ 63) (h : env.Holds file content) :
    sum env file s = (attempt ("Failed to hash " ++ file)
      (SumCode.ofBytes content (SumCode.unitBits s) s.wide)).map fun code => printJson (Report.ofSum code) := by
  obtain ⟨input, hopen, hbytes⟩ := h
  obtain ⟨hinput, rfl⟩ := Input.toBytes_eq_ok.1 hbytes
  have hsum : SumCode.generate input s = some (SumCode.ofBytes input.bytesRead (SumCode.unitBits s) s.wide) := by
    rw [SumCode.generate_eq hvalid, hinput, Input.buffer?_of_lt hroom, Option.map_some]
  simp only [sum, hopen, bind, Except.bind, hsum]
  rfl

end commands

theorem looksLikeOption_of_isFor {t : MainType} {k : SubType} {bits : Nat} {code : String}
    (h : Code.IsFor t k bits code) : looksLikeOption code = false := by
  obtain ⟨u, rfl, -⟩ := h
  have hlist : (Code.withScheme u.toCode).toList = 'I' :: ("SCC:".toList ++ u.toCode.toList) :=
    String.toList_append
  rw [looksLikeOption, hlist]
  rfl

def printed (text : String) : Outcome := ⟨0, text, none⟩

/-- A call of the program: what it can see, the file that is named for its settings, if one is, and the
file to work on. -/
structure Call where
  env : Environment
  config : Option String
  file : String

namespace Call

def run (c : Call) (command : List String) : Outcome :=
  CommandLine.run c.env (configArguments c.config ++ command)

/-- The file holds `content`, and the file with the settings sets all of `s`, which is valid. -/
structure Meets (c : Call) (content : List UInt8) (s : Settings) : Prop where
  config : ∀ path ∈ c.config, IsFileArgument path
  settings : ∃ input text, c.env.file (c.env.expand (c.config.getD defaultConfig)) = some input ∧
    readText? input = some text ∧ SetsAll text s
  valid : s.validate = .ok ()
  file : IsFileArgument c.file
  content : c.env.Holds c.file content

variable {c : Call} {content : List UInt8} {s : Settings}

theorem Meets.room (h : c.Meets content s) : s.bufferSize.toNat < 2 ^ 63 := by
  obtain ⟨_, _, -, -, hsets⟩ := h.settings
  exact hsets.bufferSize_lt

theorem Meets.run_of_ofArguments (h : c.Meets content s) {arguments : List String} {command : Command}
    (hrequest : Request.ofArguments (configArguments c.config ++ arguments) =
      .run ⟨c.config.getD defaultConfig, none, command⟩) :
    c.run arguments = .ofResult (command.run c.env s) := by
  obtain ⟨input, text, hfile, hread, hsets⟩ := h.settings
  have hbits : s.bits < 2 ^ 32 := by
    have hrange := Code.bits_of_supported _ (Settings.validate_eq_ok.1 h.valid).1
    omega
  have hsettings : c.env.settings (c.config.getD defaultConfig) = .ok s := by
    rw [Environment.settings, hfile]
    simp only [hread, settingsOfText_of_setsAll hsets hbits]
  rw [run, CommandLine.run, hrequest]
  simp only [Invocation.run, hsettings, Option.getD_none]
  change Outcome.ofResult (attempt _ s.validate >>= fun _ => command.run c.env s) = _
  rw [h.valid]
  rfl

theorem Meets.run_data (h : c.Meets content s) :
    c.run ["data", c.file] = .ofResult ((Command.data c.file).run c.env s) :=
  h.run_of_ofArguments (ofArguments_file h.config rfl h.file rfl)

theorem Meets.run_instance (h : c.Meets content s) :
    c.run ["instance", c.file] = .ofResult ((Command.inst c.file).run c.env s) :=
  h.run_of_ofArguments (ofArguments_file h.config rfl h.file rfl)

theorem Meets.run_sum (h : c.Meets content s) :
    c.run ["sum", c.file] = .ofResult ((Command.sum c.file false).run c.env s) :=
  h.run_of_ofArguments (ofArguments_file h.config rfl h.file rfl)

theorem Meets.run_compose (h : c.Meets content s) {code code' : String} (hcode : looksLikeOption code = false)
    (hcode' : looksLikeOption code' = false) : c.run ["compose", code, code'] =
      .ofResult ((Command.compose [code, code'] false).run c.env s) := by
  refine h.run_of_ofArguments (ofArguments_plain h.config rfl ?_ rfl rfl)
  simp [hcode, hcode']

theorem Meets.data_printed (h : c.Meets content s) {data : DataCode}
    (hdata : DataCode.generate content s.bits = .ok data) : c.run ["data", c.file] = printed (isccText data.iscc) := by
  rw [h.run_data, Command.run, data_eq h.valid h.room h.content hdata, printJson_ofIscc (DataCode.isPlain_iscc hdata)]
  rfl

theorem Meets.instance_printed (h : c.Meets content s) {inst : InstanceCode}
    (hinst : InstanceCode.generate content s.bits = .ok inst) :
    c.run ["instance", c.file] = printed (instanceText inst) := by
  rw [h.run_instance, Command.run, inst_eq h.valid h.room h.content hinst,
    printJson_ofInstance (InstanceCode.isPlain_iscc hinst) (InstanceCode.isPlain_datahash hinst)]
  rfl

theorem Meets.run_sum_eq (h : c.Meets content s) (hwide : s.wide = false) : c.run ["sum", c.file] =
    .ofResult ((attempt ("Failed to hash " ++ c.file) (SumCode.ofBytes content s.bits false)).map
      fun code => printJson (Report.ofSum code)) := by
  have hsum := sum_eq h.valid h.room h.content
  rw [SumCode.unitBits, hwide, if_neg Bool.false_ne_true] at hsum
  rw [h.run_sum, Command.run, Bool.false_or, hsum]

theorem Meets.compose_printed (h : c.Meets content s) (hwide : s.wide = false) {code code' joined : String}
    (hcode : looksLikeOption code = false) (hcode' : looksLikeOption code' = false)
    (hjoined : Composite.assemble [code, code'] false = .ok joined) :
    c.run ["compose", code, code'] = printed (isccText joined) := by
  rw [h.run_compose hcode hcode', Command.run, hwide, Bool.or_false, hjoined,
    ← printJson_ofIscc (Composite.isPlain_of_assemble hjoined)]
  rfl

end Call

/-- What the commands print is made of the bytes and the number of bits. The units of a sum are the codes
that the commands for each of them print, and joined they are the code of the sum; if they are too short for
that, there is no sum. Read as JSON, what is printed has these fields, as long as the number of bytes is one
of 64 bits. -/
theorem commands_agree (content : List UInt8) {bits : Nat} (hbits : bits ∈ Code.supportedBits) :
    ∃ (data : DataCode) (inst : InstanceCode), DataCode.generate content bits = .ok data ∧
      InstanceCode.generate content bits = .ok inst ∧
      (∀ (c : Call) size, c.Meets content ⟨bits, false, size⟩ →
        c.run ["data", c.file] = printed (isccText data.iscc) ∧
        c.run ["instance", c.file] = printed (instanceText inst)) ∧
      Json.read? (isccText data.iscc).toList = some (.object [Report.entry "iscc" (Report.text data.iscc)]) ∧
      (content.length < 2 ^ 64 → Json.read? (instanceText inst).toList = some (.object
        [Report.entry "datahash" (Report.text inst.datahash),
          Report.entry "filesize" (Report.number inst.filesize), Report.entry "iscc" (Report.text inst.iscc)])) ∧
      (64 ≤ bits → ∃ code, Composite.assemble [data.iscc, inst.iscc] false = .ok code ∧
        (∀ (c : Call) size, c.Meets content ⟨bits, false, size⟩ →
          c.run ["sum", c.file] =
            printed (sumText code inst.datahash inst.filesize data.iscc inst.iscc) ∧
          c.run ["compose", data.iscc, inst.iscc] = printed (isccText code)) ∧
        Json.read? (isccText code).toList = some (.object [Report.entry "iscc" (Report.text code)]) ∧
        (content.length < 2 ^ 64 →
          Json.read? (sumText code inst.datahash inst.filesize data.iscc inst.iscc).toList = some (.object
            [Report.entry "datahash" (Report.text inst.datahash),
              Report.entry "filesize" (Report.number inst.filesize), Report.entry "iscc" (Report.text code),
              Report.entry "units" (Report.texts [data.iscc, inst.iscc])]))) ∧
      (bits = 32 → ∀ (c : Call) size, c.Meets content ⟨bits, false, size⟩ → c.run ["sum", c.file] =
        ⟨1, "", some (.under ("Failed to hash " ++ c.file) (.shortUnit .data 32))⟩) := by
  obtain ⟨data, hdata⟩ := ((DataCode.generates content).exists_iff bits).2 ⟨hbits, trivial⟩
  obtain ⟨inst, hinst⟩ := ((InstanceCode.generates content).exists_iff bits).2 ⟨hbits, trivial⟩
  have hdataplain := DataCode.isPlain_iscc hdata
  have hinstplain := InstanceCode.isPlain_iscc hinst
  have hhash := InstanceCode.isPlain_datahash hinst
  have hsize (h : content.length < 2 ^ 64) : inst.filesize < 2 ^ 64 := by
    rwa [InstanceCode.filesize_of_generate hinst]
  refine ⟨data, inst, hdata, hinst, fun c size h => ⟨h.data_printed hdata, h.instance_printed hinst⟩,
    Report.read?_isccText hdataplain, fun h => Report.read?_instanceText hinstplain hhash (hsize h), fun hlong => ?_,
    fun hshort c size h => ?_⟩
  · obtain ⟨data', inst', code, hdata', hinst', hcode, hsum, -⟩ :=
      SumCode.ofBytes_long content hbits hlong (fun h : false = true => by cases h)
    rw [hdata, Except.ok.injEq] at hdata'
    rw [hinst, Except.ok.injEq] at hinst'
    subst hdata' hinst'
    have hplain := Composite.isPlain_of_assemble hcode
    have hdatacode := (DataCode.generates content).isFor bits data hdata
    have hinstcode := (InstanceCode.generates content).isFor bits inst hinst
    refine ⟨code, hcode, fun c size h => ⟨?_, ?_⟩, Report.read?_isccText hplain,
      fun h => Report.read?_sumText hplain hhash hdataplain hinstplain (hsize h)⟩
    · rw [h.run_sum_eq rfl, hsum, ← printJson_ofSum inst.filesize hplain hhash hdataplain hinstplain]
      rfl
    · exact h.compose_printed rfl (looksLikeOption_of_isFor hdatacode) (looksLikeOption_of_isFor hinstcode) hcode
  · subst hshort
    rw [h.run_sum_eq rfl, SumCode.ofBytes_short content false hbits (by decide)]
    rfl

def tinyBufferText : String := "[gen]\nbits = 64\nwide = false\nbuffer_size = 1\n"

/-- Three bytes on the standard input, in two blocks and with an interruption. -/
def pipedCall : Call where
  env := ⟨none, [.block [255], .interrupted, .block [0, 7]],
    fun path => if path = "settings" then some (.ofBytes tinyBufferText.toUTF8.toList) else none⟩
  config := some "settings"
  file := "-"

def inlineText : String := "gen = \x7b wide = false, buffer_size = 4096, bits = 64 \x7d"

def storedCall : Call where
  env := ⟨some "/home", [], fun path =>
    if path = "/home/.iscc/config.toml" then some (.ofBytes inlineText.toUTF8.toList)
    else if path = "a b" then some (.ofBytes [255, 0, 7])
    else none⟩
  config := none
  file := "a b"

theorem meets_pipedCall : pipedCall.Meets [255, 0, 7] ⟨64, false, 1⟩ where
  config path h := by
    cases h
    exact ⟨rfl, by decide⟩
  settings := by
    have hfile : pipedCall.env.file (pipedCall.env.expand (pipedCall.config.getD defaultConfig)) =
      some (.ofBytes tinyBufferText.toUTF8.toList) := by decide +kernel
    exact ⟨_, tinyBufferText, hfile, by decide +kernel,
      ⟨by decide +kernel, by decide +kernel, by decide +kernel⟩⟩
  valid := rfl
  file := ⟨rfl, by decide⟩
  content := holds_hyphen (by decide +kernel)

theorem meets_storedCall : storedCall.Meets [255, 0, 7] ⟨64, false, 4096⟩ where
  config path h := by cases h
  settings := by
    have hfile : storedCall.env.file (storedCall.env.expand (storedCall.config.getD defaultConfig)) =
      some (.ofBytes inlineText.toUTF8.toList) := by decide +kernel
    exact ⟨_, inlineText, hfile, by decide +kernel,
      ⟨by decide +kernel, by decide +kernel, by decide +kernel⟩⟩
  valid := rfl
  file := ⟨rfl, by decide⟩
  content := by
    have hinput : storedCall.env.file "a b" = some (.ofBytes [255, 0, 7]) := by decide +kernel
    exact holds_file (by decide) hinput (by decide +kernel)

theorem commands_agree_piped : ∃ (data : DataCode) (inst : InstanceCode) (code : String),
    storedCall.run ["data", "a b"] = printed (isccText data.iscc) ∧
    storedCall.run ["instance", "a b"] = printed (instanceText inst) ∧
    pipedCall.run ["sum", "-"] = printed (sumText code inst.datahash inst.filesize data.iscc inst.iscc) ∧
    pipedCall.run ["compose", data.iscc, inst.iscc] = printed (isccText code) := by
  obtain ⟨data, inst, -, -, hunits, -, -, hjoined, -⟩ :=
    commands_agree [255, 0, 7] (by decide : 64 ∈ Code.supportedBits)
  obtain ⟨code, -, hcode, -⟩ := hjoined (le_refl 64)
  obtain ⟨hdata, hinst⟩ := hunits storedCall 4096 meets_storedCall
  obtain ⟨hsum, hcompose⟩ := hcode pipedCall 1 meets_pipedCall
  exact ⟨data, inst, code, hdata, hinst, hsum, hcompose⟩

end CommandLine

end ContentCode
