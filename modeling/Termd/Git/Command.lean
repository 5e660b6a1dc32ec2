import Termd.Library.Utf8Lossy

/-!
# Commands of git

What a command prints is read up to a limit, wherever that falls, and its bytes are converted with
replacement.

## Main definitions

* `BoundedGitOutput.ofSlices`: what is kept of the bytes, and whether it is everything
* `runGitCommand`: the result of a command

## Main results

* `ofSlices_singleton`: an output within the limit is kept
-/

namespace Termd

namespace Git

structure BoundedGitOutput where
  bytes : List UInt8
  truncated : Bool

namespace BoundedGitOutput

def withCapacity : BoundedGitOutput := ⟨[], false⟩

def extendFromSlice (output : BoundedGitOutput) (bytes : List UInt8) (maxBytes : ℕ) :
    BoundedGitOutput :=
  let retained := min bytes.length (maxBytes - output.bytes.length)
  ⟨output.bytes ++ bytes.take retained, output.truncated || retained < bytes.length⟩

/-- The output as it comes from the pipe, one slice for each read. -/
def ofSlices (slices : List (List UInt8)) (maxBytes : ℕ) : BoundedGitOutput :=
  slices.foldl (fun output bytes => output.extendFromSlice bytes maxBytes) withCapacity

end BoundedGitOutput

theorem ofSlices_singleton {bytes : List UInt8} {maxBytes : ℕ} (h : bytes.length ≤ maxBytes) :
    BoundedGitOutput.ofSlices [bytes] maxBytes = ⟨bytes, false⟩ := by
  simp [BoundedGitOutput.ofSlices, BoundedGitOutput.extendFromSlice, BoundedGitOutput.withCapacity,
    h]

structure GitCommandResult where
  success : Bool
  stdout : List Char
  stdoutTruncated : Bool
  stderrTruncated : Bool

def GitCommandResult.truncated (output : GitCommandResult) : Bool :=
  output.stdoutTruncated || output.stderrTruncated

def GIT_COMMAND_STDOUT_MAX_BYTES : ℕ := 1024 * 1024

def GIT_COMMAND_STDERR_MAX_BYTES : ℕ := 64 * 1024

/-- `String::from_utf8_lossy` -/
def lossyText (bytes : List UInt8) : List Char := (fromUtf8Lossy bytes).map Utf8Piece.toChar

def runGitCommand (success : Bool) (stdout stderr : List (List UInt8)) : GitCommandResult where
  success := success
  stdout := lossyText (BoundedGitOutput.ofSlices stdout GIT_COMMAND_STDOUT_MAX_BYTES).bytes
  stdoutTruncated := (BoundedGitOutput.ofSlices stdout GIT_COMMAND_STDOUT_MAX_BYTES).truncated
  stderrTruncated := (BoundedGitOutput.ofSlices stderr GIT_COMMAND_STDERR_MAX_BYTES).truncated

end Git

end Termd
