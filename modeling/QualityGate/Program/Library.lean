/-
The modules that come with the language.
-/
namespace QualityGate.Program

def wordsOf (s : String) : List String :=
  (s.splitToList fun c => c = ' ' || c = '\n').filter (· ≠ "")

/-- The modules that are packages of source files. -/
def libraryPackages : List String := wordsOf
  "asyncio collections concurrent ctypes curses dbm distutils email encodings ensurepip html
  http idlelib importlib json lib2to3 logging multiprocessing pydoc_data re sqlite3 tkinter
  tomllib turtledemo unittest urllib venv wsgiref xml xmlrpc zoneinfo"

/-- Those that are single source files. -/
def librarySources : List String := wordsOf
  "__future__ _aix_support _bootsubprocess _collections_abc _compat_pickle _compression
  _markupbase _osx_support _py_abc _pydecimal _pyio _sitebuiltins _strptime _threading_local
  _weakrefset abc aifc antigravity argparse ast asynchat asyncore base64 bdb bisect bz2
  cProfile calendar cgi cgitb chunk cmd code codecs codeop colorsys compileall configparser
  contextlib contextvars copy copyreg crypt csv dataclasses datetime decimal difflib dis
  doctest enum filecmp fileinput fnmatch fractions ftplib functools genericpath getopt getpass
  gettext glob graphlib gzip hashlib heapq hmac imaplib imghdr imp inspect io ipaddress
  keyword linecache locale lzma mailbox mailcap mimetypes modulefinder netrc nntplib ntpath
  nturl2path numbers opcode operator optparse os pathlib pdb pickle pickletools pipes pkgutil
  platform plistlib poplib posixpath pprint profile pstats pty py_compile pyclbr pydoc queue
  quopri random reprlib rlcompleter runpy sched secrets selectors shelve shlex shutil signal
  site smtpd smtplib sndhdr socket socketserver sre_compile sre_constants sre_parse ssl stat
  statistics string stringprep struct subprocess sunau symtable sysconfig tabnanny tarfile
  telnetlib tempfile textwrap this threading timeit token tokenize trace traceback tracemalloc
  tty turtle types typing uu uuid warnings wave weakref webbrowser xdrlib zipapp zipfile
  zipimport"

/-- Those that are part of the interpreter. -/
def libraryBuiltIn : List String := [
  "_abc", "_ast", "_codecs", "_collections", "_functools", "_imp", "_io", "_locale", "_operator",
  "_signal", "_sre", "_stat", "_string", "_symtable", "_thread", "_tokenize", "_tracemalloc",
  "_typing", "_warnings", "_weakref", "atexit", "builtins", "errno", "faulthandler", "gc",
  "itertools", "marshal", "posix", "pwd", "sys", "time"]

/-- Those whose code the interpreter carries with it. -/
def libraryFrozen : List String := wordsOf
  "_collections_abc _frozen_importlib _frozen_importlib_external _sitebuiltins abc codecs
  genericpath io ntpath os posixpath runpy site stat zipimport"

/-- Those that are compiled code. -/
def libraryBinaries : List String := wordsOf
  "_asyncio _bisect _blake2 _bz2 _codecs_cn _codecs_hk _codecs_iso2022 _codecs_jp _codecs_kr
  _codecs_tw _contextvars _crypt _csv _ctypes _curses _curses_panel _datetime _dbm _decimal
  _elementtree _gdbm _hashlib _heapq _json _lsprof _lzma _md5 _multibytecodec _multiprocessing
  _opcode _pickle _posixshmem _posixsubprocess _queue _random _sha1 _sha256 _sha3 _sha512
  _socket _sqlite3 _ssl _statistics _struct _tkinter _uuid _zoneinfo array audioop binascii
  cmath fcntl grp math mmap nis ossaudiodev pyexpat readline resource select spwd syslog
  termios unicodedata zlib"

def libraryModules : List String :=
  libraryBuiltIn ++ libraryFrozen ++ libraryPackages ++ librarySources ++ libraryBinaries

/-- Does a module come with the language?  Only the first part of the name counts. -/
def isLibraryModule (name : String) : Bool :=
  libraryModules.contains ((name.splitOn ".").headD "")

def libraryDir : String := "/usr/local/lib/python3.11"

/-- The source file of a module that comes with the language, if it has one. -/
def librarySource? (name : String) : Option String :=
  if libraryPackages.contains name then some s!"{libraryDir}/{name}/__init__.py"
  else if librarySources.contains name then some s!"{libraryDir}/{name}.py"
  else none

/-- The file of a module that comes with the language as compiled code. -/
def libraryCompiled (name : String) : String :=
  s!"{libraryDir}/lib-dynload/{name}.cpython-311-x86_64-linux-gnu.so"

def libraryFile? (name : String) : Option String :=
  (librarySource? name).or
    (if libraryBinaries.contains name then some (libraryCompiled name) else none)

/-- The place that a module that comes with the language is found at. -/
def libraryOrigin (name : String) : String :=
  if libraryBuiltIn.contains name then "built-in"
  else if libraryFrozen.contains name then "frozen"
  else (librarySource? name).getD (libraryCompiled name)

end QualityGate.Program
