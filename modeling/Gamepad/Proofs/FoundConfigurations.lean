import Gamepad.Configuration.Load
import Gamepad.Files.Tree
import Gamepad.Proofs.ValidConfigurations
import Gamepad.Proofs.WrittenConfigurations

/-!
# The configuration that is found

At most one file is read: the one that is named, or else the default one if anything is there.
-/

namespace Gamepad

namespace Configuration

open Toml

/-- What comes of a file, by what reading it shows. -/
inductive FileYields (files : FileAccess Id) (path : String) :
    Except ConfigurationFault Configuration → Prop
  | unreadable {cause : ReadFault} (hread : files.read path = .error cause) :
    FileYields files path (.error (.unreadable path cause))
  | notUtf8 {bytes : ByteArray} (hread : files.read path = .ok bytes)
      (htext : String.fromUTF8? bytes = none) :
    FileYields files path (.error (.unreadable path .notUtf8))
  | text {bytes : ByteArray} {text : String} {result : Except ConfigurationFault Configuration}
      (hread : files.read path = .ok bytes) (htext : String.fromUTF8? bytes = some text)
      (hyields : TextYields text result) : FileYields files path result

/-- The file that is to be read: the named one, or else the default one if it is there. -/
inductive Chosen (files : FileAccess Id) : Option String → Option String → String → Prop
  | named (path : String) (fallback : Option String) : Chosen files (some path) fallback path
  | found {path : String} (hpresent : files.isPresent path = true) :
    Chosen files none (some path) path

section

variable {files : FileAccess Id} {path : String} {explicit fallback : Option String}
  {result : Except ConfigurationFault Configuration}

/-! ## One file -/

theorem load_eq : load files path =
    ⟨match (files.read path).bind FileAccess.decodeText with
      | .error cause => .error (.unreadable path cause)
      | .ok text => ofToml text, [.configurationRead path]⟩ :=
  rfl

theorem FileYields.load (hyields : FileYields files path result) :
    Configuration.load files path = ⟨result, [.configurationRead path]⟩ := by
  rw [load_eq]
  cases hyields with
  | unreadable hread => rw [hread, Except.bind]
  | notUtf8 hread htext => simp only [hread, Except.bind, FileAccess.decodeText, htext]
  | text hread htext hyields =>
      simp only [hread, Except.bind, FileAccess.decodeText, htext, hyields.ofToml]

theorem exists_fileYields (files : FileAccess Id) (path : String) :
    ∃ result, FileYields files path result := by
  cases hread : files.read path with
  | error cause => exact ⟨_, .unreadable hread⟩
  | ok bytes =>
      cases htext : String.fromUTF8? bytes with
      | none => exact ⟨_, .notUtf8 hread htext⟩
      | some text =>
          obtain ⟨result, hyields⟩ := exists_textYields text
          exact ⟨result, .text hread htext hyields⟩

theorem load_value_eq_iff : (load files path).value = result ↔ FileYields files path result := by
  constructor
  · rintro rfl
    obtain ⟨result, hyields⟩ := exists_fileYields files path
    rwa [hyields.load]
  · intro hyields
    rw [hyields.load]

/-! ## The file that is chosen -/

theorem Chosen.loadOrDefault (hchosen : Chosen files explicit fallback path) :
    Configuration.loadOrDefault files explicit fallback =
      ⟨(Configuration.load files path).value,
        [.configurationChosen path, .configurationRead path]⟩ := by
  cases hchosen with
  | named => rfl
  | found hpresent =>
      simp only [Configuration.loadOrDefault, hpresent]
      rfl

theorem noneChosen_iff : (∀ path, ¬ Chosen files explicit fallback path) ↔
    explicit = none ∧ ∀ path, fallback = some path → files.isPresent path = false := by
  constructor
  · intro hnone
    cases explicit with
    | some path => exact absurd (.named path fallback) (hnone path)
    | none =>
        refine ⟨rfl, ?_⟩
        rintro path rfl
        rw [← Bool.not_eq_true]
        exact fun hpresent => hnone path (.found hpresent)
  · rintro ⟨rfl, habsent⟩ path hchosen
    cases hchosen with
    | found hpresent => exact Bool.false_ne_true ((habsent path rfl).symm.trans hpresent)

theorem loadOrDefault_of_noneChosen (hnone : ∀ path, ¬ Chosen files explicit fallback path) :
    loadOrDefault files explicit fallback = ⟨.ok {}, [.configurationMissing]⟩ := by
  obtain ⟨rfl, habsent⟩ := noneChosen_iff.mp hnone
  cases fallback with
  | none => rfl
  | some path =>
      simp only [loadOrDefault, habsent path rfl]
      rfl

theorem loadOrDefault_eq_defaults_iff :
    loadOrDefault files explicit fallback = ⟨.ok {}, [.configurationMissing]⟩ ↔
      ∀ path, ¬ Chosen files explicit fallback path := by
  refine ⟨?_, loadOrDefault_of_noneChosen⟩
  intro hmissing path hchosen
  -- A file that is read may write down the defaults too, so the records have to tell the two apart.
  have hevents : [Event.configurationMissing] =
      [.configurationChosen path, .configurationRead path] :=
    congrArg Logged.events (hmissing.symm.trans hchosen.loadOrDefault)
  cases hevents

theorem source_of_loaded
    {c : Configuration} (hloaded : (loadOrDefault files explicit fallback).value = .ok c) :
    (c = {} ∧ ∀ path, ¬ Chosen files explicit fallback path) ∨
      ∃ path bytes text, Chosen files explicit fallback path ∧ files.read path = .ok bytes ∧
        String.fromUTF8? bytes = some text ∧ ofToml text = .ok c := by
  by_cases hnone : ∀ path, ¬ Chosen files explicit fallback path
  · rw [loadOrDefault_of_noneChosen hnone] at hloaded
    exact .inl ⟨(Except.ok.inj hloaded).symm, hnone⟩
  · obtain ⟨path, hchosen⟩ := not_forall_not.mp hnone
    rw [hchosen.loadOrDefault] at hloaded
    cases load_value_eq_iff.mp hloaded with
    | text hread htext hyields =>
        exact .inr ⟨path, _, _, hchosen, hread, htext, hyields.ofToml⟩

theorem validate_of_loaded
    {c : Configuration} (hloaded : (loadOrDefault files explicit fallback).value = .ok c) :
    c.validate = .ok () := by
  rcases source_of_loaded hloaded with ⟨rfl, -⟩ | ⟨path, bytes, text, -, -, -, htoml⟩
  · rfl
  · exact validate_of_ofToml htoml

end

/-- The file that is named, or else the one at the default place, is what is loaded, with every
fault that it has.  The built-in defaults take over, and the log says so, exactly if there is no
such file.  Whatever is loaded is valid. -/
theorem present_configuration_read (files : FileAccess Id) (explicit fallback : Option String) :
    (∀ path, Chosen files explicit fallback path →
        loadOrDefault files explicit fallback =
            ⟨(load files path).value, [.configurationChosen path, .configurationRead path]⟩ ∧
          ∀ result, (loadOrDefault files explicit fallback).value = result ↔
            FileYields files path result) ∧
      (loadOrDefault files explicit fallback = ⟨.ok {}, [.configurationMissing]⟩ ↔
        explicit = none ∧ ∀ path, fallback = some path → files.isPresent path = false) ∧
      ∀ c, (loadOrDefault files explicit fallback).value = .ok c →
        c.validate = .ok () ∧ (∃ table, c.lineTable = .ok table) ∧
          ((c = {} ∧ ∀ path, ¬ Chosen files explicit fallback path) ∨
            ∃ path bytes text, Chosen files explicit fallback path ∧
              files.read path = .ok bytes ∧ String.fromUTF8? bytes = some text ∧
              ofToml text = .ok c) := by
  refine ⟨?_, ?_, ?_⟩
  · intro path hchosen
    rw [hchosen.loadOrDefault]
    exact ⟨rfl, fun _ => load_value_eq_iff⟩
  · rw [loadOrDefault_eq_defaults_iff, noneChosen_iff]
  · intro c hloaded
    have hvalid := validate_of_loaded hloaded
    have hsound := c.validate_eq_ok_iff.mp hvalid
    exact ⟨hvalid, ⟨_, lineTable_of_nodup hsound.lines⟩, source_of_loaded hloaded⟩

def fewFiles : FileAccess Id where
  read path :=
    if path = "broken" then .ok "debounce_ms = x".toUTF8
    else if path = "whole" then .ok "debounce_ms = 9".toUTF8
    else if path = "folder" then .error .isDirectory
    else .error .notFound
  isPresent path := ["broken", "whole", "folder"].contains path

theorem fewFiles_read :
    (loadOrDefault fewFiles (some "broken") (some "whole")).value = .error .unparsable ∧
      (loadOrDefault fewFiles (some "nowhere") (some "whole")).value =
        .error (.unreadable "nowhere" .notFound) ∧
      (loadOrDefault fewFiles none (some "folder")).value =
        .error (.unreadable "folder" .isDirectory) ∧
      (loadOrDefault fewFiles none (some "whole")).value = .ok { debounceMs := 9 } ∧
      ({ debounceMs := 9 } : Configuration).validate = .ok () ∧
      loadOrDefault fewFiles none (some "nowhere") = ⟨.ok {}, [.configurationMissing]⟩ := by
  have hnoDocument : Document.parse? "debounce_ms = x" = none := by decide +kernel
  have hdocument :
      Document.parse? "debounce_ms = 9" = some [("debounce_ms", .integer 9)] := by decide +kernel
  have hbroken : FileYields fewFiles "broken" (.error .unparsable) :=
    .text rfl rfl (.noDocument hnoDocument)
  have hwhole : FileYields fewFiles "whole" (.ok { debounceMs := 9 }) :=
    .text rfl rfl (.valid hdocument rfl rfl)
  obtain ⟨hnamed, -, -⟩ := present_configuration_read fewFiles (some "broken") (some "whole")
  obtain ⟨hmissing, -, -⟩ := present_configuration_read fewFiles (some "nowhere") (some "whole")
  obtain ⟨hfolder, -, -⟩ := present_configuration_read fewFiles none (some "folder")
  obtain ⟨hfound, -, hvalid⟩ := present_configuration_read fewFiles none (some "whole")
  obtain ⟨-, hdefault, -⟩ := present_configuration_read fewFiles none (some "nowhere")
  have hread := ((hfound "whole" (.found rfl)).2 (.ok { debounceMs := 9 })).mpr hwhole
  refine ⟨((hnamed "broken" (.named _ _)).2 _).mpr hbroken,
    ((hmissing "nowhere" (.named _ _)).2 _).mpr (.unreadable rfl),
    ((hfolder "folder" (.found rfl)).2 _).mpr (.unreadable rfl), hread, (hvalid _ hread).1,
    hdefault.mpr ⟨rfl, ?_⟩⟩
  rintro path ⟨⟩
  rfl

end Configuration

/-! ## Directory trees -/

theorem FileNode.follow_ne_isDirectory
    (above : List FileNode) (node : FileNode) (names : List String) :
    follow above node names ≠ .error .isDirectory := by
  fun_induction follow above node names <;> simp_all

namespace FileTree

theorem resolve_ne_isDirectory (tree : FileTree) (path : String) :
    tree.resolve path ≠ .error .isDirectory := by
  unfold resolve
  split_ifs with hnul hempty hlong
  · nofun
  · nofun
  · nofun
  · exact FileNode.follow_ne_isDirectory [] tree.root _
  · exact FileNode.follow_ne_isDirectory [] tree.root _

theorem absent_iff (tree : FileTree) (path : String) :
    tree.access.isPresent path = false ↔
      ∃ cause, cause ≠ .isDirectory ∧ tree.read path = .error cause := by
  change (tree.resolve path).isOk = false ↔ _
  cases hplace : tree.resolve path with
  | error cause =>
      have hcause : cause ≠ .isDirectory := by
        rintro rfl
        exact tree.resolve_ne_isDirectory path hplace
      simp [FileTree.read, hplace, Except.isOk, Except.toBool, hcause]
  | ok node =>
      cases node <;> simp [FileTree.read, hplace, Except.isOk, Except.toBool]

end FileTree

/-- The files of a tree give way to the built-in defaults only where there is nothing to read and
no directory either. -/
theorem Configuration.defaults_on_tree_iff (tree : FileTree) (path : String) :
    loadOrDefault tree.access none (some path) = ⟨.ok {}, [.configurationMissing]⟩ ↔
      ∃ cause, cause ≠ .isDirectory ∧ tree.read path = .error cause := by
  rw [loadOrDefault_eq_defaults_iff, noneChosen_iff, ← tree.absent_iff]
  simp

end Gamepad
