import ClusterClient.CommandLine.Report

/-!
# The program

Prints what its command line asks for, and errors on the error stream.
-/

namespace ClusterClient.CommandLine

/-- The commands and their options. -/
def usage : String :=
  "Encode and inspect key-value protocol frames\n\n" ++
    "Usage:\n" ++
    "  encode-increment --key KEY [--delta N] [--initial N] [--expiry N]\n" ++
    "                   [--collection-id N] [--opaque N]\n" ++
    "  encode-get-meta  --key KEY [--collection-id N]\n" ++
    "  decode HEX"

end ClusterClient.CommandLine

/-- Run the command line of the process. -/
def main (arguments : List String) : IO UInt32 := do
  let setting ← IO.getEnv ClusterClient.retryLimitVariable
  let ending := ClusterClient.CommandLine.run arguments setting
  match ending with
  | .helped => IO.println ClusterClient.CommandLine.usage
  | .misused => IO.eprintln ClusterClient.CommandLine.usage
  | .failed log => IO.eprintln log
  | .printed lines => lines.forM IO.println
  return ending.exitCode
