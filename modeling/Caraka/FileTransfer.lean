import Caraka.Foundation.Bytes

/-! `file_transfer.rs`: the file a transfer reads. -/

namespace Caraka

open Foundation

def maxFileBytes : Nat := 5 * 1024 * 1024

/-- The extension after the last dot, in lower case. No letter outside ASCII lowers to one of
the letters compared below. -/
def extensionOf (filename : String) : List Char :=
  ((filename.toList.reverse.takeWhile (· ≠ '.')).reverse).map Char.toLower

def mimeFromFilename (filename : String) : String :=
  let ext := extensionOf filename
  if ext = "jpg".toList ∨ ext = "jpeg".toList then "image/jpeg"
  else if ext = "png".toList then "image/png"
  else if ext = "gif".toList then "image/gif"
  else if ext = "webp".toList then "image/webp"
  else if ext = "svg".toList then "image/svg+xml"
  else if ext = "bmp".toList then "image/bmp"
  else if ext = "pdf".toList then "application/pdf"
  else if ext = "txt".toList then "text/plain"
  else if ext = "md".toList then "text/markdown"
  else if ext = "json".toList then "application/json"
  else if ext = "zip".toList then "application/zip"
  else if ext = "gz".toList then "application/gzip"
  else if ext = "mp3".toList then "audio/mpeg"
  else if ext = "mp4".toList then "video/mp4"
  else if ext = "wav".toList then "audio/wav"
  else if ext = "doc".toList ∨ ext = "docx".toList then "application/msword"
  else "application/octet-stream"

def isPreviewableImage (mime : String) : Bool :=
  mime ∈ ["image/jpeg", "image/png", "image/gif", "image/webp", "image/svg+xml", "image/bmp"]

/-- A path as the file system answers for it, errors already rendered. -/
structure DiskFile where
  /-- The last component of the path, where it is valid UTF-8. -/
  fileName : Option String
  metadataLen : Except String Nat
  contents : Except String Bytes

/-- `read_file_for_transfer`: the bytes, the file name and the MIME type. -/
def readFileForTransfer (file : DiskFile) : Except String (Bytes × String × String) :=
  let filename := file.fileName.getD "file"
  match file.metadataLen with
  | .error e => .error ("Gagal baca metadata file: " ++ e)
  | .ok len =>
    if len > maxFileBytes then
      .error ("File terlalu besar (" ++ toString (len / (1024 * 1024)) ++ " MB). Maksimum " ++
        toString (maxFileBytes / (1024 * 1024)) ++ " MB.")
    else
      match file.contents with
      | .error e => .error ("Gagal baca file: " ++ e)
      | .ok bytes => .ok (bytes, filename, mimeFromFilename filename)

end Caraka
