import Wobbly.Ending

/-! The command line. Everything is decided before the first byte is written. -/

def main (words : List String) : IO UInt32 := do
  let columns ← IO.getEnv "COLUMNS"
  match Wobbly.Ending.ofWords columns words with
  | .helped exitCode =>
    let summary := Wobbly.Command.Usage.summary
    if exitCode = 0 then IO.println summary else IO.eprintln summary
    return .ofNat exitCode
  | .finished exitCode output errors =>
    errors.forM IO.eprintln
    IO.print output
    return .ofNat exitCode
