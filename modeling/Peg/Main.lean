import Peg.CommandLine

/-! # The program

Reads the file that the arguments name, if they name one, carries out the command and prints what
it gives. -/

namespace Peg.CommandLine

/-- More steps than any text in memory needs. -/
def stepLimit : Nat := 1000000000000

/-- Reads a file. -/
def readBytes (path : List Char) : IO (Except ReadFault (List UInt8)) := do
  try
    let bytes ← IO.FS.readBinFile (String.ofList path)
    return .ok bytes.toList
  catch error =>
    match error with
    | .inappropriateType .. => return .error (.isFolder path)
    | _ => return .error (.notFound path)

/-- Reads the file that a command needs. -/
def readFor (arguments : List (List Char)) : IO (Except ReadFault (List UInt8)) :=
  match readArguments arguments with
  | .ok ⟨_, .file (some path), _, _⟩ => readBytes path
  | _ => return .ok []

end Peg.CommandLine

open Peg.CommandLine in
/-- Carries out the command in the arguments. -/
def main (arguments : List String) : IO UInt32 := do
  let arguments := arguments.map String.toList
  let content ← readFor arguments
  match runArguments stepLimit (fun _ => content) arguments with
  | .stopped code message =>
    IO.eprint message
    return code.toUInt32
  | .returned code output errors =>
    IO.eprint errors
    IO.print output
    return code.toUInt32
  | .escaped fault output errors =>
    IO.eprint errors
    IO.print output
    IO.eprintln ((fault.message?).getD fault.className)
    return 1
