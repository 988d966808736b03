/-!
# Outside of the working directory

Absolute paths lead to what stands outside of the working directory.  Of that, only the directories
that every system has are known, and the device that is empty when read and forgets what is written
to it.
-/

namespace SchemaDecl.Outside

/-- What is known to stand somewhere. -/
inductive Known where
  | directory
  /-- Neither a file nor a directory, but something to read from and write to. -/
  | device
  deriving DecidableEq, Repr

/-- The names of the directories right below the root. -/
def directoryNames : List String :=
  ["bin", "boot", "dev", "etc", "home", "lib", "media", "mnt", "opt", "proc", "root", "run", "sbin",
   "srv", "sys", "tmp", "usr", "var"]

/-- The location of the device. -/
def device : List String :=
  ["dev", "null"]

/-- What stands at a location below the root. -/
def at? (location : List String) : Option Known :=
  match location with
  | [] => some .directory
  | [name] => if directoryNames.contains name then some .directory else none
  | _ => if location = device then some .device else none

/-- What stands where parts lead to from a location.  Only directories are passed; an empty part and
a single dot stay where they are, two dots go back, but not beyond the root. -/
def follow? (here : List String) : List String → Option Known
  | [] => at? here
  | part :: rest =>
      if at? here = some .directory then
        if part = "" ∨ part = "." then follow? here rest
        else if part = ".." then follow? here.dropLast rest
        else follow? (here ++ [part]) rest
      else none

/-- Whether parts lead through the device, as if it were a directory, or end there. -/
def meetsDevice (parts : List String) : Bool :=
  (List.range (parts.length + 1)).any fun count =>
    follow? [] (parts.take count) == some .device

/-- Parts where two dots have taken back the part before them, if there is one. -/
def collapse (parts : List String) : List String :=
  parts.foldl
    (fun before part =>
      if part = ".." ∧ before.getLast?.any (· != "..") then before.dropLast else before ++ [part])
    []

/-- The location below the root that parts lead to when two dots take back the part before them. -/
def location (parts : List String) : List String :=
  (collapse parts).dropWhile (· == "..")

end SchemaDecl.Outside
