import ContentCode.Generator.Audio
import ContentCode.Generator.Data
import ContentCode.Generator.Image
import ContentCode.Generator.Instance
import ContentCode.Generator.Meta
import ContentCode.Generator.Text

/-!
The generators run on fixed inputs, and their codes compared with the published ones.
-/

namespace ContentCode.Conformance

/-- A generator run on a fixed input, and the code it has to give. -/
structure Case where
  name : String
  expected : String
  run : Unit → Except Error String

def metaCase (name expected title : String) (description document : Option String) : Case :=
  ⟨name, expected, fun _ => do return (← MetaCode.generate title description document 64).iscc⟩

def textCase (name expected text : String) : Case :=
  ⟨name, expected, fun _ => do return (← TextCode.generate text 64).iscc⟩

def imageCase (name expected : String) (grey : UInt8) (bits : Nat) : Case :=
  ⟨name, expected, fun _ => do
    return (← ImageCode.generate (List.replicate 1024 grey) bits).iscc⟩

def audioCase (name expected : String) (features : List Int32) (bits : Nat) : Case :=
  ⟨name, expected, fun _ => do return (← AudioCode.generate features bits).iscc⟩

def cases : List Case := [
  metaCase "meta_title_only" "ISCC:AAAZXZ6OU74YAZIM" "Die Unendliche Geschichte" none none,
  metaCase "meta_title_description" "ISCC:AAAZXZ6OU4E45RB5" "Die Unendliche Geschichte"
    (some "Von Michael Ende") none,
  metaCase "meta_json_object" "ISCC:AAAWKLHFXN63LHL2" "Hello" none
    (some "\x7b\"some\":\"object\"\x7d"),
  metaCase "meta_data_url" "ISCC:AAAWKLHFXN43ICP2" "Hello" none
    (some "data:application/json;charset=utf-8;base64,eyJzb21lIjogIm9iamVjdCJ9"),
  textCase "text_empty" "ISCC:EAASL4F2WZY7KBXB" "",
  textCase "text_hello_world" "ISCC:EAASKDNZNYGUUF5A" "Hello World",
  imageCase "image_all_black" "ISCC:EEAQAAAAAAAAAAAA" 0 64,
  imageCase "image_all_white" "ISCC:EEBYAAAAAAAAAAAAAAAAAAAAAAAAA" 255 128,
  audioCase "audio_empty" "ISCC:EIAQAAAAAAAAAAAA" [] 64,
  audioCase "audio_single" "ISCC:EIBQAAAAAEAAAAABAAAAAAAAAAAAA" [1] 128,
  audioCase "audio_negative" "ISCC:EIDQAAAAAH777777AAAAAAAAAAAACAAAAAAP777774AAAAAAAAAAAAI"
    [-1, 0, 1] 256,
  ⟨"data_two_bytes", "ISCC:GAAXL2XYM5BQIAZ3", fun _ => do
    return (← DataCode.generate [0xFF, 0x00] 64).iscc⟩,
  ⟨"instance_empty", "ISCC:IAA26E2JXH27TING", fun _ => do
    return (← InstanceCode.generate [] 64).iscc⟩]

structure Failure where
  name : String
  expected : String
  actual : String
  deriving DecidableEq, Repr

structure Report where
  passed : Nat
  failures : List Failure
  deriving DecidableEq, Repr

def Case.failure? (c : Case) : Option Failure :=
  match c.run () with
  | .ok code => if code = c.expected then none else some ⟨c.name, c.expected, code⟩
  | .error e => some ⟨c.name, c.expected, e.message⟩

def report : Report :=
  let failures := cases.filterMap Case.failure?
  ⟨cases.length - failures.length, failures⟩

def Report.isSuccess (r : Report) : Bool := r.failures.isEmpty

def Report.total (r : Report) : Nat := r.passed + r.failures.length

end ContentCode.Conformance
