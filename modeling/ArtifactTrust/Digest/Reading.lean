import ArtifactTrust.Digest

/-!
# Digests of content that is read

Content may come from a source that hands it out read by read. All reads go to the front of one
buffer, so behind a short read stands what earlier reads left there. A read that hands out nothing
ends the content, and a read that fails ends the reading.
-/

namespace ArtifactTrust.Digest

set_option autoImplicit false

def bufferSize : Nat := 8192

/-- A buffer after a read; what has no room in it is not read. -/
def fill (buffer read : List UInt8) : List UInt8 :=
  (read ++ buffer.drop read.length).take buffer.length

/-- Takes in what a source hands out, as far as the end of the content. -/
def takeIn {ε : Type} (h : Hash.BlockHash) (buffer : List UInt8) (p : h.Progress) :
    List (Except ε ByteArray) → Except ε h.Progress
  | [] => .ok p
  | .error fault :: _ => .error fault
  | .ok read :: rest =>
    if read.isEmpty then .ok p
    else
      let filled := fill buffer read.data.toList
      takeIn h filled (h.update p (filled.take read.size)) rest

/-- The digest of content by the reads of its source. -/
def ofReads {ε : Type} (reads : List (Except ε ByteArray)) : Except ε String :=
  (takeIn Hash.sha256 (List.replicate bufferSize 0) Hash.sha256.initial reads).map fun p =>
    "sha256:" ++ Text.hex (Hash.sha256.finish p)

end ArtifactTrust.Digest
