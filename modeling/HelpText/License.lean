import HelpText.Failure

/-!
The license header at the top of a generated file: the built-in one, none at all, or that of a file.
-/

namespace HelpText

/-- The text of a header and a word for where it came from. -/
structure License where
  text : Text
  origin : Text
  deriving DecidableEq, Repr

namespace License

def builtIn : License where
  text := .of
    "// Copyright 2019 The Kubernetes Authors.\n// SPDX-License-Identifier: Apache-2.0"
  origin := .of "default"

/-- The word that asks for no header. -/
def noneWord : Text := .of "none"

def read (fs : FileSystem) (path : Path) : Except Stop License :=
  match fs.readText path with
  | .ok text => .ok { text, origin := path.text }
  | .error (.access fault) => .error (.ofFault (fun fault => .license path (.access fault)) fault)
  | .error (.encoding fault) => .error (.failure (.license path (.encoding fault)))

/-- The header that a setting asks for. An empty setting is as good as none. -/
def resolve (fs : FileSystem) : Option Text → Except Stop License
  | none | some [] => .ok builtIn
  | some choice =>
    if choice = noneWord then .ok { text := [], origin := noneWord }
    else match fs.expandHome (Path.read choice) with
      | .ok path => read fs path
      | .error fault => .error (.interruption (.path fault))

end License

end HelpText
