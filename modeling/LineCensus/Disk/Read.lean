/-
# Disk.Read -- the text of a file in a named encoding

Reading fails in two ways.  A path that leads to no file and a name of no text
encoding are problems of that file, which callers can record and pass over.  A
NUL character in a path or a name, and UTF-16 without a byte order mark, are
faults that end the work.
-/
import LineCensus.Encoding.Decode
import LineCensus.Fault

set_option autoImplicit false

namespace LineCensus

/-- Why a file cannot be read. -/
inductive ReadProblem where
  | unreachable (path : String) (problem : PathProblem)
  | unknownEncoding (name : String)
  | notATextEncoding (name : String)

namespace ReadProblem

def message : ReadProblem → String
  | .unreachable path problem => problem.message path
  | .unknownEncoding name => "unknown encoding: " ++ name
  | .notATextEncoding name =>
      "'" ++ name ++ "' is not a text encoding; use codecs.open() to handle arbitrary codecs"

/-- The message as the reason for passing a file over. -/
def reason (problem : ReadProblem) : String :=
  "Cannot read file: " ++ problem.message

end ReadProblem

/-- Why a text cannot be had: a problem of the file, or a fault. -/
inductive ReadFailure where
  | problem (problem : ReadProblem)
  | fault (fault : Fault)

/-- The text encoding of a name. -/
def charset (name : String) : Except ReadProblem Charset :=
  match Codec.find? name with
  | some (.charset charset) => .ok charset
  | some .conversion => .error (.notATextEncoding name)
  | none => .error (.unknownEncoding name)

namespace Disk

/-- The text of a file, its line breaks unified. -/
def readText (disk : Disk) (encoding path : String) : Except ReadFailure Text :=
  if hasNul encoding then .error (.fault (.refused .nulInName))
  else if hasNul path then .error (.fault (.refused .nulInPath))
  else match disk.content path with
    | .error problem => .error (.problem (.unreachable path problem))
    | .ok content =>
        match charset encoding with
        | .error problem => .error (.problem problem)
        | .ok charset =>
            match charset.read? content.data.toList with
            | some text => .ok text
            | none => .error (.fault .noByteOrderMark)

end Disk
end LineCensus
