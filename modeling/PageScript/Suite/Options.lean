import PageScript.Record.Checked
import PageScript.Record.Dump

namespace PageScript.Suite

open Record

inductive Style where
  /-- As they are. -/
  | locator
  /-- By what a user perceives, where the selector tells it. -/
  | roleFirst
  deriving DecidableEq, Repr

def Style.label : Style → Text
  | .locator => "locator"
  | .roleFirst => "role-first"

def Style.all : List Style := [.locator, .roleFirst]

def Style.words : List (Text × Style) := Style.all.map fun style => (style.label, style)

def Style.read : Reader Style := Reader.word .noneOf Style.words

/-- Names for the test file and the suite, whether repeated uses of an element
become methods of a page object, and how selectors are written. -/
structure Options where
  fileName? : Option Text
  suiteId? : Option Text
  pageObjects : Bool
  style : Style
  deriving DecidableEq, Repr

namespace Options

def standard : Options := ⟨none, none, true, .locator⟩

def title : Text := "CompileOptions"

def fileNameKey : Key := .plain "file_name"
def suiteIdKey : Key := .plain "suite_id"
def pageObjectsKey : Key := .plain "emit_page_objects"
def styleKey : Key := .plain "selector_strategy"

def read : Reader Options := Reader.record title fun entries =>
  Options.mk <$> optional fileNameKey none (Reader.nullable Reader.text) entries
    <*> optional suiteIdKey none (Reader.nullable Reader.text) entries
    <*> optional pageObjectsKey true Reader.bool entries
    <*> optional styleKey .locator Style.read entries

def dump (options : Options) : Dump := .record
  [(fileNameKey, .text? options.fileName?), (suiteIdKey, .text? options.suiteId?),
   (pageObjectsKey, .bool options.pageObjects), (styleKey, .text options.style.label)]

end Options

end PageScript.Suite
