import RefPages.Json.Record
import RefPages.Json.Value
import RefPages.Report.Basic

namespace RefPages.Report

inductive Format where
  | text
  | json
  deriving DecidableEq, Repr

namespace Format

instance : Inhabited Format := ⟨text⟩

def name : Format → String
  | text => "text"
  | json => "json"

def ofName? (s : Text) : Option Format :=
  match String.ofList (s.map Char.toLower) with
  | "text" | "txt" => some .text
  | "json" => some .json
  | _ => none

end Format

def entryPieces (e : Entry) : List Text :=
  (e.signature :: e.errors).flatMap (fun line => [line, ['\n']]) ++ [['\n']]

def entryValue (e : Entry) : Json.Value :=
  .record [("signature".toList, .string e.signature),
    ("errors".toList, .list (e.errors.map .string))]

def value (r : Report) : Json.Value :=
  .record [("source".toList, .string r.source),
    ("generated_at".toList, .string r.generatedAt),
    ("pages".toList, .number r.pages),
    ("failed_pages".toList, .number r.failedPages),
    ("entries".toList, .list (r.entries.map entryValue))]

def pieces (r : Report) : Format → List Text
  | .text => r.entries.flatMap entryPieces
  | .json => r.value.pieces 0 ++ [['\n']]

def write (r : Report) (format : Format) : Text :=
  (r.pieces format).flatten

structure EntryParts where
  signature : Option Text := none
  errors : Option (List Text) := none

def entryReader : Json.Reader Entry :=
  .record
    [.ofReader "signature".toList (·.signature) (fun t p => { p with signature := some t }) .string,
     .ofReader "errors".toList (·.errors) (fun ts p => { p with errors := some ts })
       (.list .string)]
    ({} : EntryParts)
    fun p => return ⟨← p.signature, ← p.errors⟩

structure Parts where
  source : Option Text := none
  generatedAt : Option Text := none
  pages : Option Nat := none
  failedPages : Option Nat := none
  entries : Option (List Entry) := none

def reader : Json.Reader Report :=
  .record
    [.ofReader "source".toList (·.source) (fun t p => { p with source := some t }) .string,
     .ofReader "generated_at".toList (·.generatedAt) (fun t p => { p with generatedAt := some t })
       .string,
     .ofReader "pages".toList (·.pages) (fun n p => { p with pages := some n }) .count,
     .ofReader "failed_pages".toList (·.failedPages) (fun n p => { p with failedPages := some n })
       .count,
     .ofReader "entries".toList (·.entries) (fun es p => { p with entries := some es })
       (.list entryReader)]
    ({} : Parts)
    fun p => return ⟨← p.source, ← p.generatedAt, ← p.pages, ← p.failedPages, ← p.entries⟩

def read (t : Text) : Except Json.Fault Report :=
  reader.readAll t

end RefPages.Report
