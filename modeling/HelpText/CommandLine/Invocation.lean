import HelpText.CommandLine.Console
import HelpText.CommandLine.Program

/-!
The program with the console that it is run with.
-/

namespace HelpText

namespace CommandLine

def run (words : List Text) (s : Log.Service) : Response × Log.Service :=
  invoke consoleLine words s

end CommandLine

end HelpText
