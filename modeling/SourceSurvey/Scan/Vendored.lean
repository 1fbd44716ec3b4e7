import SourceSurvey.Path
import SourceSurvey.Text.Pattern

namespace SourceSurvey

namespace Vendored

open Pattern

def part : Pattern := start ||| lit "/"

def directories : List String :=
  ["cache", "dist", "node_modules", ".yarn/releases", ".yarn/plugins", ".yarn/sdks", ".yarn/versions",
    ".yarn/unplugged", "bower_components", "Godeps/_workspace", "testdata", "vendor", "vendors", "Extern",
    "extern", "Externals", "externals", "External", "external", "bootstrap-datepicker", ".vscode",
    "ace-builds", "MathJax", "admin_media", "env", "Carthage", "Sparkle", "Crashlytics.framework",
    "Fabric.framework", "BuddyBuildSDK.framework", ".google_apis", ".github", ".obsidian", ".teamcity",
    "xvba_modules"]

def rootDirectories : List String :=
  ["Dependencies", "dependencies", "deps", "debian", "Pods", "vignettes", "inst/extdata", "puphpet"]

def version : Pattern := one .digit ++ lit "." ++ many1 .digit ++ opt (lit "." ++ many1 .digit)

def plain : Pattern := many (.except ".")

def libraries : List Pattern :=
  [lit "jquery" ++ plain ++ lit ".js" ++ stop,
    lit "jquery-" ++ version ++ lit ".js" ++ stop,
    lit "jquery-ui" ++ opt (lit "-" ++ version) ++ opt (lit "." ++ many1 .word) ++ lit ".js" ++ stop,
    lit "jquery." ++ oneOf ["ui", "effects"] ++ lit "." ++ plain ++ lit ".js" ++ stop,
    lit "jquery.fn.gantt.js", lit "jquery.fancybox.js", lit "fuelux.js",
    lit "jquery.fileupload" ++ opt (lit "-" ++ many1 .word) ++ lit ".js" ++ stop,
    lit "jquery.dataTables.js", lit "bootbox.js", lit "pdf.worker.js",
    lit "slick." ++ many1 .word ++ one .notNewline ++ lit "js" ++ stop,
    lit "leaflet.draw-src.js", lit "Control.FullScreen.js", lit "leaflet.spin.js", lit "wicket-leaflet.js",
    lit "prototype" ++ many .notNewline ++ lit ".js" ++ stop,
    lit "effects.js" ++ stop, lit "controls.js" ++ stop, lit "dragdrop.js" ++ stop,
    lit "dojo.js" ++ stop, lit "MochiKit.js" ++ stop,
    lit "yahoo-" ++ plain ++ lit ".js" ++ stop, lit "yui" ++ plain ++ lit ".js" ++ stop,
    lit "ckeditor.js" ++ stop, lit "tiny_mce" ++ plain ++ lit ".js" ++ stop,
    lit "tiny_mce/" ++ oneOf ["langs", "plugins", "themes", "utils"],
    oneOf ["codemirror", "codeMirror"] ++ lit "/" ++ opt (many1 .digit ++ lit "." ++ many1 .digit ++ lit "/") ++
      oneOf ["lib", "mode", "theme", "addon", "keymap", "demo"],
    lit "shBrush" ++ plain ++ lit ".js" ++ stop, lit "shCore.js" ++ stop, lit "shLegacy.js" ++ stop,
    lit "angular" ++ plain ++ lit ".js" ++ stop,
    lit "d3" ++ opt (lit ".v" ++ many1 .digit) ++ plain ++ lit ".js" ++ stop,
    lit "react" ++ opt (lit "-" ++ plain) ++ lit ".js" ++ stop,
    lit "flow-typed/" ++ many .notNewline ++ lit ".js" ++ stop,
    lit "modernizr-" ++ version ++ lit ".js" ++ stop,
    lit "modernizr.custom." ++ many1 .digit ++ lit ".js" ++ stop,
    lit "cordova" ++ plain ++ lit ".js" ++ stop,
    lit "bootstrap" ++ many (.except "/.") ++ opt (lit "." ++ many .notNewline) ++ lit ".js" ++ stop,
    lit "materialize.js" ++ stop,
    lit "select2/" ++ many .notNewline ++ lit ".js" ++ stop,
    lit "extjs/" ++ many .notNewline ++ lit ".js" ++ stop,
    lit "cpplint.py", lit "fabfile.py" ++ stop, lit "dotnet-install.sh" ++ stop,
    oneOf ["doc", "docs"] ++ lit "/" ++ opt (lit "_") ++
      oneOf ["build", "theme", "themes", "template", "templates", "static"] ++ lit "/"]

def marks : List Pattern :=
  [oneOf [".", "-"] ++ lit "min.js" ++ stop,
    oneOf ["3rd", "Third", "third"] ++ opt (oneOf ["-", "_"]) ++ oneOf ["Party", "party"] ++ lit "/",
    lit ".d.ts" ++ stop, lit ".xctemplate/", lit ".imageset/", lit "-vsdoc.js" ++ stop,
    lit ".intellisense.js" ++ stop,
    lit "foundation" ++ opt (lit "." ++ many .notNewline) ++ lit ".js" ++ stop]

def patterns : List Pattern :=
  [part ++ oneOf (directories.map (· ++ "/")), start ++ oneOf (rootDirectories.map (· ++ "/")),
    part ++ many1 (.among "Vv") ++ lit "endor/"] ++ libraries.map (part ++ ·) ++ marks

def isVendored (path : String) : Bool := patterns.any (·.occursIn (utf8 path))

def isHidden (path : String) : Bool :=
  let name := Path.base (Path.clean path)
  name.toList.head? = some '.' && name ≠ "."

end Vendored

end SourceSurvey
