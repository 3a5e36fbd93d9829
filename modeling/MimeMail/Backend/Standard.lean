import MimeMail.Backend
import MimeMail.Files
import MimeMail.Sha256
import MimeMail.Template.Render

namespace MimeMail

namespace ContentType

def unknown : String := "application/octet-stream"

/-- The types that common extensions suggest. -/
def byExtension : List (String × List String) :=
  [("text/plain", ["txt", "py", "c", "h", "cpp", "log", "ini"]),
   ("text/html", ["html", "htm"]),
   ("text/css", ["css"]),
   ("text/csv", ["csv"]),
   ("text/tab-separated-values", ["tsv"]),
   ("text/javascript", ["js"]),
   ("application/json", ["json"]),
   ("text/xml", ["xml"]),
   ("application/pdf", ["pdf"]),
   ("image/png", ["png"]),
   ("image/jpeg", ["jpg", "jpeg", "jpe"]),
   ("image/gif", ["gif"]),
   ("image/bmp", ["bmp"]),
   ("image/svg+xml", ["svg"]),
   ("image/webp", ["webp"]),
   ("image/x-icon", ["ico"]),
   ("image/tiff", ["tif", "tiff"]),
   ("image/heic", ["heic"]),
   ("image/heif", ["heif"]),
   ("audio/mpeg", ["mp3"]),
   ("video/mp4", ["mp4"]),
   ("audio/wav", ["wav"]),
   ("audio/ogg", ["ogg"]),
   ("audio/mid", ["mid", "midi"]),
   ("video/webm", ["webm"]),
   ("video/mpeg", ["mpeg", "mpg"]),
   ("video/3gpp", ["3gp"]),
   ("video/x-flv", ["flv"]),
   ("video/x-m4v", ["m4v"]),
   ("video/x-ms-wmv", ["wmv"]),
   ("video/x-msvideo", ["avi"]),
   ("video/quicktime", ["mov"]),
   ("application/zip", ["zip"]),
   ("application/gzip", ["gz"]),
   ("application/x-compressed", ["tgz"]),
   ("application/x-tar", ["tar"]),
   ("application/x-7z-compressed", ["7z"]),
   ("application/x-bzip2", ["bz2"]),
   ("application/x-rar-compressed", ["rar"]),
   ("application/msword", ["doc"]),
   ("application/vnd.openxmlformats-officedocument.wordprocessingml.document", ["docx"]),
   ("application/vnd.ms-excel", ["xls"]),
   ("application/vnd.openxmlformats-officedocument.spreadsheetml.sheet", ["xlsx"]),
   ("application/vnd.ms-powerpoint", ["ppt"]),
   ("application/vnd.openxmlformats-officedocument.presentationml.presentation", ["pptx"]),
   ("application/vnd.oasis.opendocument.text", ["odt"]),
   ("application/vnd.oasis.opendocument.spreadsheet", ["ods"]),
   ("application/vnd.oasis.opendocument.presentation", ["odp"]),
   ("application/vnd.oasis.opendocument.graphics", ["odg"]),
   ("application/rtf", ["rtf"]),
   ("text/calendar", ["ics"]),
   ("message/rfc822", ["eml"]),
   ("text/x-vcard", ["vcf"]),
   ("text/markdown", ["md"]),
   ("application/font-woff", ["woff"]),
   ("font/woff2", ["woff2"]),
   ("font/ttf", ["ttf"]),
   ("application/vnd.ms-fontobject", ["eot"]),
   ("application/font-sfnt", ["otf"]),
   ("application/octet-stream", ["exe", "bin", "java", "dat", "iso"]),
   ("application/x-sh", ["sh"]),
   ("text/x-rust", ["rs"]),
   ("application/wasm", ["wasm"]),
   ("application/vnd.android.package-archive", ["apk"]),
   ("application/epub+zip", ["epub"]),
   ("application/postscript", ["ps"]),
   ("application/x-sql", ["sql"]),
   ("text/x-yaml", ["yaml", "yml"]),
   ("text/x-toml", ["toml"]),
   ("application/java-archive", ["jar"]),
   ("application/x-tex", ["tex"]),
   ("application/javascript", ["mjs"]),
   ("video/x-matroska", ["mkv"]),
   ("audio/flac", ["flac"]),
   ("audio/aac", ["aac"]),
   ("audio/m4a", ["m4a"])]

/-- The full case folding of the characters that fold to ASCII letters. -/
def foldCase (c : Char) : List Char :=
  match c with
  | '\u017f' => ['s']
  | '\u212a' => ['k']
  | '\u00df' | '\u1e9e' => ['s', 's']
  | '\ufb00' => ['f', 'f']
  | '\ufb01' => ['f', 'i']
  | '\ufb02' => ['f', 'l']
  | '\ufb03' => ['f', 'f', 'i']
  | '\ufb04' => ['f', 'f', 'l']
  | '\ufb05' | '\ufb06' => ['s', 't']
  | c => [c.toLower]

def ofPath (path : String) : String :=
  let extension := String.ofList ((Path.extension ((Path.fileName? path).getD [])).flatMap foldCase)
  ((byExtension.find? (·.2.contains extension)).map (·.1)).getD unknown

end ContentType

/-- Templates over JSON values, and SHA-256 for the digest. -/
instance standardBackend : Backend where
  Template := Template
  Data := Data.Value
  Fault := TemplateError
  faultDecidableEq := inferInstanceAs (DecidableEq TemplateError)
  parse := Template.parse
  render := Template.render
  describe := TemplateError.message
  digest := Sha256.digest
  length_digest := Sha256.length_digest
  typeOf := ContentType.ofPath

end MimeMail
