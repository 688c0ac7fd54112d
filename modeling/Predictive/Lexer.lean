import Predictive.Lexer.Basic
import Predictive.Regex.Search
/-!
# Rules from regular expressions

The lexer with patterns that are regular expressions.
-/
namespace Predictive

def Regex.library : PatternLibrary where
  compile pattern := (Pattern.ofText pattern).map Pattern.find
  escape := Regex.escape

namespace Lexer

def addPattern (l : Lexer) (pattern : Text) (symbol : Symbol) : Option Lexer :=
  l.addPatternOf Regex.library pattern symbol

def keywordPattern (word : Text) : Text := Regex.library.keywordPattern word

def addKeyword (l : Lexer) (word : Text) : Option Lexer := l.addKeywordOf Regex.library word

end Lexer

end Predictive
