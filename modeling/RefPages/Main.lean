import RefPages.Command.Program

open RefPages

def noNetwork : Http.Network where
  answer _ := .unreached ["client error (Connect)".toList]

def emptyDisk : Disk where
  root := []
  start := []
  start_isFolder := rfl

def main (args : List String) : IO UInt32 := do
  let home := ((← IO.getEnv "HOME").getD "").toList
  let surroundings : Command.Surroundings := ⟨noNetwork, [], home, false⟩
  let (output, _) := (Command.program surroundings (args.map String.toList) emptyDisk).value
  for line in output.log do
    IO.eprintln (String.ofList line)
  IO.print (String.ofList output.stdout)
  IO.eprint (String.ofList output.stderr)
  return output.exit.toUInt32
