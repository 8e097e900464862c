import Gamepad.Configuration.Decode

/-! # Finding the configuration -/

namespace Gamepad.Configuration

variable {m : Type → Type} [Monad m]

def load (files : FileAccess m) (path : String) :
    m (Logged (Except ConfigurationFault Configuration)) := do
  let text ← files.readText path
  let loaded :=
    match text with
    | .error cause => .error (.unreadable path cause)
    | .ok text => ofToml text
  return ⟨loaded, [.configurationRead path]⟩

/-- The default place of the configuration.  A directory for configurations counts only if its
path is absolute; otherwise there is one in the home directory. -/
def defaultPath (configHome : Option String) (home : String) : String :=
  let base :=
    match configHome.filter isAbsolutePath with
    | some dir => dir
    | none => joinPath home ".config"
  joinPath (joinPath base "padcore") "config.toml"

def loadOrDefault (files : FileAccess m) (explicit : Option String) (fallback : Option String) :
    m (Logged (Except ConfigurationFault Configuration)) := do
  let chosen ←
    match explicit, fallback with
    | some path, _ => pure (some path)
    | none, none => pure none
    | none, some path => do
      let present ← files.isPresent path
      pure (if present then some path else none)
  match chosen with
  | none => return ⟨.ok {}, [.configurationMissing]⟩
  | some path =>
    let loaded ← load files path
    return { loaded with events := .configurationChosen path :: loaded.events }

end Gamepad.Configuration
