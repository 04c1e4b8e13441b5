/-
# What texts and kinds have

A field of a template may name what a value has. The table lists kinds of values with what each of
them has of its own: a line with `@` begins a kind and gives its sizes and how it is made, a line
with `.` begins something that it has, and the lines with `|` behind it tell about it.
-/

namespace ToolGateway
namespace Template

/-- The table as text. -/
def memberText : String := "@str 80 0 273159424 0 0 -
|str(object='') -> str
|str(bytes_or_buffer[, encoding[, errors]]) -> str
|
|Create a new string object from the given object. If encoding or
|errors is specified, then the object must expose a data buffer
|that will be decoded using the given encoding and error handler.
|Otherwise, returns the result of object.__str__() (if defined)
|or repr(object).
|encoding defaults to sys.getdefaultencoding().
|errors defaults to 'strict'.
.__add__ slot ($self, value, /)
|Return self+value.
.__contains__ slot ($self, key, /)
|Return key in self.
.__eq__ slot ($self, value, /)
|Return self==value.
.__format__ method ($self, format_spec, /)
|Return a formatted version of the string as described by format_spec.
.__ge__ slot ($self, value, /)
|Return self>=value.
.__getattribute__ slot ($self, name, /)
|Return getattr(self, name).
.__getitem__ slot ($self, key, /)
|Return self[key].
.__getnewargs__ method -
.__gt__ slot ($self, value, /)
|Return self>value.
.__hash__ slot ($self, /)
|Return hash(self).
.__iter__ slot ($self, /)
|Implement iter(self).
.__le__ slot ($self, value, /)
|Return self<=value.
.__len__ slot ($self, /)
|Return len(self).
.__lt__ slot ($self, value, /)
|Return self<value.
.__mod__ slot ($self, value, /)
|Return self%value.
.__mul__ slot ($self, value, /)
|Return self*value.
.__ne__ slot ($self, value, /)
|Return self!=value.
.__new__ fixed ($type, *args, **kwargs)
|Create and return a new object.  See help(type) for accurate signature.
.__repr__ slot ($self, /)
|Return repr(self).
.__rmod__ slot ($self, value, /)
|Return value%self.
.__rmul__ slot ($self, value, /)
|Return value*self.
.__sizeof__ method ($self, /)
|Return the size of the string in memory, in bytes.
.__str__ slot ($self, /)
|Return str(self).
.capitalize method ($self, /)
|Return a capitalized version of the string.
|
|More specifically, make the first character have upper case and the rest lower
|case.
.casefold method ($self, /)
|Return a version of the string suitable for caseless comparisons.
.center method ($self, width, fillchar=' ', /)
|Return a centered string of length width.
|
|Padding is done using the specified fill character (default is a space).
.count method -
|S.count(sub[, start[, end]]) -> int
|
|Return the number of non-overlapping occurrences of substring sub in
|string S[start:end].  Optional arguments start and end are
|interpreted as in slice notation.
.encode method ($self, /, encoding='utf-8', errors='strict')
|Encode the string using the codec registered for encoding.
|
|  encoding
|    The encoding in which to encode the string.
|  errors
|    The error handling scheme to use for encoding errors.
|    The default is 'strict' meaning that encoding errors raise a
|    UnicodeEncodeError.  Other possible values are 'ignore', 'replace' and
|    'xmlcharrefreplace' as well as any other name registered with
|    codecs.register_error that can handle UnicodeEncodeErrors.
.endswith method -
|S.endswith(suffix[, start[, end]]) -> bool
|
|Return True if S ends with the specified suffix, False otherwise.
|With optional start, test S beginning at that position.
|With optional end, stop comparing S at that position.
|suffix can also be a tuple of strings to try.
.expandtabs method ($self, /, tabsize=8)
|Return a copy where all tab characters are expanded using spaces.
|
|If tabsize is not given, a tab size of 8 characters is assumed.
.find method -
|S.find(sub[, start[, end]]) -> int
|
|Return the lowest index in S where substring sub is found,
|such that sub is contained within S[start:end].  Optional
|arguments start and end are interpreted as in slice notation.
|
|Return -1 on failure.
.format method -
|S.format(*args, **kwargs) -> str
|
|Return a formatted version of S, using substitutions from args and kwargs.
|The substitutions are identified by braces ('\x7b' and '\x7d').
.format_map method -
|S.format_map(mapping) -> str
|
|Return a formatted version of S, using substitutions from mapping.
|The substitutions are identified by braces ('\x7b' and '\x7d').
.index method -
|S.index(sub[, start[, end]]) -> int
|
|Return the lowest index in S where substring sub is found,
|such that sub is contained within S[start:end].  Optional
|arguments start and end are interpreted as in slice notation.
|
|Raises ValueError when the substring is not found.
.isalnum method ($self, /)
|Return True if the string is an alpha-numeric string, False otherwise.
|
|A string is alpha-numeric if all characters in the string are alpha-numeric and
|there is at least one character in the string.
.isalpha method ($self, /)
|Return True if the string is an alphabetic string, False otherwise.
|
|A string is alphabetic if all characters in the string are alphabetic and there
|is at least one character in the string.
.isascii method ($self, /)
|Return True if all characters in the string are ASCII, False otherwise.
|
|ASCII characters have code points in the range U+0000-U+007F.
|Empty string is ASCII too.
.isdecimal method ($self, /)
|Return True if the string is a decimal string, False otherwise.
|
|A string is a decimal string if all characters in the string are decimal and
|there is at least one character in the string.
.isdigit method ($self, /)
|Return True if the string is a digit string, False otherwise.
|
|A string is a digit string if all characters in the string are digits and there
|is at least one character in the string.
.isidentifier method ($self, /)
|Return True if the string is a valid Python identifier, False otherwise.
|
|Call keyword.iskeyword(s) to test whether string s is a reserved identifier,
|such as \"def\" or \"class\".
.islower method ($self, /)
|Return True if the string is a lowercase string, False otherwise.
|
|A string is lowercase if all cased characters in the string are lowercase and
|there is at least one cased character in the string.
.isnumeric method ($self, /)
|Return True if the string is a numeric string, False otherwise.
|
|A string is numeric if all characters in the string are numeric and there is at
|least one character in the string.
.isprintable method ($self, /)
|Return True if the string is printable, False otherwise.
|
|A string is printable if all of its characters are considered printable in
|repr() or if it is empty.
.isspace method ($self, /)
|Return True if the string is a whitespace string, False otherwise.
|
|A string is whitespace if all characters in the string are whitespace and there
|is at least one character in the string.
.istitle method ($self, /)
|Return True if the string is a title-cased string, False otherwise.
|
|In a title-cased string, upper- and title-case characters may only
|follow uncased characters and lowercase characters only cased ones.
.isupper method ($self, /)
|Return True if the string is an uppercase string, False otherwise.
|
|A string is uppercase if all cased characters in the string are uppercase and
|there is at least one cased character in the string.
.join method ($self, iterable, /)
|Concatenate any number of strings.
|
|The string whose method is called is inserted in between each given string.
|The result is returned as a new string.
|
|Example: '.'.join(['ab', 'pq', 'rs']) -> 'ab.pq.rs'
.ljust method ($self, width, fillchar=' ', /)
|Return a left-justified string of length width.
|
|Padding is done using the specified fill character (default is a space).
.lower method ($self, /)
|Return a copy of the string converted to lowercase.
.lstrip method ($self, chars=None, /)
|Return a copy of the string with leading whitespace removed.
|
|If chars is given and not None, remove characters in chars instead.
.maketrans fixed (x, y=<unrepresentable>, z=<unrepresentable>, /)
|Return a translation table usable for str.translate().
|
|If there is only one argument, it must be a dictionary mapping Unicode
|ordinals (integers) or characters to Unicode ordinals, strings or None.
|Character keys will be then converted to ordinals.
|If there are two arguments, they must be strings of equal length, and
|in the resulting dictionary, each character in x will be mapped to the
|character at the same position in y. If there is a third argument, it
|must be a string, whose characters will be mapped to None in the result.
.partition method ($self, sep, /)
|Partition the string into three parts using the given separator.
|
|This will search for the separator in the string.  If the separator is found,
|returns a 3-tuple containing the part before the separator, the separator
|itself, and the part after it.
|
|If the separator is not found, returns a 3-tuple containing the original string
|and two empty strings.
.removeprefix method ($self, prefix, /)
|Return a str with the given prefix string removed if present.
|
|If the string starts with the prefix string, return string[len(prefix):].
|Otherwise, return a copy of the original string.
.removesuffix method ($self, suffix, /)
|Return a str with the given suffix string removed if present.
|
|If the string ends with the suffix string and that suffix is not empty,
|return string[:-len(suffix)]. Otherwise, return a copy of the original
|string.
.replace method ($self, old, new, count=-1, /)
|Return a copy with all occurrences of substring old replaced by new.
|
|  count
|    Maximum number of occurrences to replace.
|    -1 (the default value) means replace all occurrences.
|
|If the optional argument count is given, only the first count occurrences are
|replaced.
.rfind method -
|S.rfind(sub[, start[, end]]) -> int
|
|Return the highest index in S where substring sub is found,
|such that sub is contained within S[start:end].  Optional
|arguments start and end are interpreted as in slice notation.
|
|Return -1 on failure.
.rindex method -
|S.rindex(sub[, start[, end]]) -> int
|
|Return the highest index in S where substring sub is found,
|such that sub is contained within S[start:end].  Optional
|arguments start and end are interpreted as in slice notation.
|
|Raises ValueError when the substring is not found.
.rjust method ($self, width, fillchar=' ', /)
|Return a right-justified string of length width.
|
|Padding is done using the specified fill character (default is a space).
.rpartition method ($self, sep, /)
|Partition the string into three parts using the given separator.
|
|This will search for the separator in the string, starting at the end. If
|the separator is found, returns a 3-tuple containing the part before the
|separator, the separator itself, and the part after it.
|
|If the separator is not found, returns a 3-tuple containing two empty strings
|and the original string.
.rsplit method ($self, /, sep=None, maxsplit=-1)
|Return a list of the substrings in the string, using sep as the separator string.
|
|  sep
|    The separator used to split the string.
|
|    When set to None (the default value), will split on any whitespace
|    character (including \\n \\r \\t \\f and spaces) and will discard
|    empty strings from the result.
|  maxsplit
|    Maximum number of splits.
|    -1 (the default value) means no limit.
|
|Splitting starts at the end of the string and works to the front.
.rstrip method ($self, chars=None, /)
|Return a copy of the string with trailing whitespace removed.
|
|If chars is given and not None, remove characters in chars instead.
.split method ($self, /, sep=None, maxsplit=-1)
|Return a list of the substrings in the string, using sep as the separator string.
|
|  sep
|    The separator used to split the string.
|
|    When set to None (the default value), will split on any whitespace
|    character (including \\n \\r \\t \\f and spaces) and will discard
|    empty strings from the result.
|  maxsplit
|    Maximum number of splits.
|    -1 (the default value) means no limit.
|
|Splitting starts at the front of the string and works to the end.
|
|Note, str.split() is mainly useful for data that has been intentionally
|delimited.  With natural text that includes punctuation, consider using
|the regular expression module.
.splitlines method ($self, /, keepends=False)
|Return a list of the lines in the string, breaking at line boundaries.
|
|Line breaks are not included in the resulting list unless keepends is given and
|true.
.startswith method -
|S.startswith(prefix[, start[, end]]) -> bool
|
|Return True if S starts with the specified prefix, False otherwise.
|With optional start, test S beginning at that position.
|With optional end, stop comparing S at that position.
|prefix can also be a tuple of strings to try.
.strip method ($self, chars=None, /)
|Return a copy of the string with leading and trailing whitespace removed.
|
|If chars is given and not None, remove characters in chars instead.
.swapcase method ($self, /)
|Convert uppercase characters to lowercase and lowercase characters to uppercase.
.title method ($self, /)
|Return a version of the string where each word is titlecased.
|
|More specifically, words start with uppercased characters and all remaining
|cased characters have lower case.
.translate method ($self, table, /)
|Replace each character in the string using the given translation table.
|
|  table
|    Translation table, which must be a mapping of Unicode ordinals to
|    Unicode ordinals, strings, or None.
|
|The table must implement lookup/indexing via __getitem__, for instance a
|dictionary or list.  If this operation raises LookupError, the character is
|left untouched.  Characters mapped to None are deleted.
.upper method ($self, /)
|Return a copy of the string converted to uppercase.
.zfill method ($self, width, /)
|Pad a numeric string with zeros on the left, to fill a field of the given width.
|
|The string is never truncated.
@object 16 0 529664 0 0 ()
|The base class of the class hierarchy.
|
|When called, it accepts no arguments and returns a new featureless
|instance that has no instance attributes and cannot be given any.
|
.__class__ field -
|the object's class
.__delattr__ slot ($self, name, /)
|Implement delattr(self, name).
.__dir__ method ($self, /)
|Default dir() implementation.
.__eq__ slot ($self, value, /)
|Return self==value.
.__format__ method ($self, format_spec, /)
|Default object formatter.
.__ge__ slot ($self, value, /)
|Return self>=value.
.__getattribute__ slot ($self, name, /)
|Return getattr(self, name).
.__getstate__ method ($self, /)
|Helper for pickle.
.__gt__ slot ($self, value, /)
|Return self>value.
.__hash__ slot ($self, /)
|Return hash(self).
.__init__ slot ($self, /, *args, **kwargs)
|Initialize self.  See help(type(self)) for accurate signature.
.__init_subclass__ shared -
|This method is called when a class is subclassed.
|
|The default implementation does nothing. It may be
|overridden to extend subclasses.
|
.__le__ slot ($self, value, /)
|Return self<=value.
.__lt__ slot ($self, value, /)
|Return self<value.
.__ne__ slot ($self, value, /)
|Return self!=value.
.__new__ fixed ($type, *args, **kwargs)
|Create and return a new object.  See help(type) for accurate signature.
.__reduce__ method ($self, /)
|Helper for pickle.
.__reduce_ex__ method ($self, protocol, /)
|Helper for pickle.
.__repr__ slot ($self, /)
|Return repr(self).
.__setattr__ slot ($self, name, value, /)
|Implement setattr(self, name, value).
.__sizeof__ method ($self, /)
|Size of object in memory, in bytes.
.__str__ slot ($self, /)
|Return str(self).
.__subclasshook__ shared -
|Abstract classes can override this to customize issubclass().
|
|This is invoked early on by abc.ABCMeta.__subclasscheck__().
|It should return True, False or NotImplemented.  If it returns
|NotImplemented, the normal algorithm is used.  Otherwise, it
|overrides the normal algorithm (and the outcome is cached).
|
@type 904 40 2148031744 264 368 -
|type(object) -> the object's type
|type(name, bases, dict, **kwds) -> a new type
.__abstractmethods__ field -
.__annotations__ field -
.__base__ part -
.__bases__ field -
.__basicsize__ part -
.__call__ slot ($self, /, *args, **kwargs)
|Call self as a function.
.__delattr__ slot ($self, name, /)
|Implement delattr(self, name).
.__dict__ field -
.__dictoffset__ part -
.__dir__ method ($self, /)
|Specialized __dir__ implementation for types.
.__doc__ field -
.__flags__ part -
.__getattribute__ slot ($self, name, /)
|Return getattr(self, name).
.__init__ slot ($self, /, *args, **kwargs)
|Initialize self.  See help(type(self)) for accurate signature.
.__instancecheck__ method ($self, instance, /)
|Check if an object is an instance.
.__itemsize__ part -
.__module__ field -
.__mro__ part -
.__name__ field -
.__new__ fixed ($type, *args, **kwargs)
|Create and return a new object.  See help(type) for accurate signature.
.__or__ slot ($self, value, /)
|Return self|value.
.__prepare__ shared -
|__prepare__() -> dict
|used to create the namespace for the class statement
.__qualname__ field -
.__repr__ slot ($self, /)
|Return repr(self).
.__ror__ slot ($self, value, /)
|Return value|self.
.__setattr__ slot ($self, name, value, /)
|Implement setattr(self, name, value).
.__sizeof__ method ($self, /)
|Return memory consumption of the type object.
.__subclasscheck__ method ($self, subclass, /)
|Check if a class is a subclass.
.__subclasses__ method ($self, /)
|Return a list of immediate subclasses.
.__text_signature__ field -
.__weakrefoffset__ part -
.mro method ($self, /)
|Return a type's method resolution order.
@builtin_function_or_method 56 0 547200 0 40 -
.__call__ slot ($self, /, *args, **kwargs)
|Call self as a function.
.__doc__ field -
.__eq__ slot ($self, value, /)
|Return self==value.
.__ge__ slot ($self, value, /)
|Return self>=value.
.__getattribute__ slot ($self, name, /)
|Return getattr(self, name).
.__gt__ slot ($self, value, /)
|Return self>value.
.__hash__ slot ($self, /)
|Return hash(self).
.__le__ slot ($self, value, /)
|Return self<=value.
.__lt__ slot ($self, value, /)
|Return self<value.
.__module__ part -
.__name__ field -
.__ne__ slot ($self, value, /)
|Return self!=value.
.__qualname__ field -
.__reduce__ method -
.__repr__ slot ($self, /)
|Return repr(self).
.__self__ field -
.__text_signature__ field -
@method-wrapper 32 0 20864 0 0 -
.__call__ slot ($self, /, *args, **kwargs)
|Call self as a function.
.__doc__ field -
.__eq__ slot ($self, value, /)
|Return self==value.
.__ge__ slot ($self, value, /)
|Return self>=value.
.__getattribute__ slot ($self, name, /)
|Return getattr(self, name).
.__gt__ slot ($self, value, /)
|Return self>value.
.__hash__ slot ($self, /)
|Return hash(self).
.__le__ slot ($self, value, /)
|Return self<=value.
.__lt__ slot ($self, value, /)
|Return self<value.
.__name__ field -
.__ne__ slot ($self, value, /)
|Return self!=value.
.__objclass__ field -
.__qualname__ field -
.__reduce__ method -
.__repr__ slot ($self, /)
|Return repr(self).
.__self__ part -
.__text_signature__ field -
@method_descriptor 56 0 678272 0 0 -
.__call__ slot ($self, /, *args, **kwargs)
|Call self as a function.
.__doc__ field -
.__get__ slot ($self, instance, owner=None, /)
|Return an attribute of instance, which is of type owner.
.__getattribute__ slot ($self, name, /)
|Return getattr(self, name).
.__name__ part -
.__objclass__ part -
.__qualname__ field -
.__reduce__ method -
.__repr__ slot ($self, /)
|Return repr(self).
.__text_signature__ field -
@wrapper_descriptor 56 0 676224 0 0 -
.__call__ slot ($self, /, *args, **kwargs)
|Call self as a function.
.__doc__ field -
.__get__ slot ($self, instance, owner=None, /)
|Return an attribute of instance, which is of type owner.
.__getattribute__ slot ($self, name, /)
|Return getattr(self, name).
.__name__ part -
.__objclass__ part -
.__qualname__ field -
.__reduce__ method -
.__repr__ slot ($self, /)
|Return repr(self).
.__text_signature__ field -
@getset_descriptor 48 0 545152 0 0 -
.__delete__ slot ($self, instance, /)
|Delete an attribute of instance.
.__doc__ field -
.__get__ slot ($self, instance, owner=None, /)
|Return an attribute of instance, which is of type owner.
.__getattribute__ slot ($self, name, /)
|Return getattr(self, name).
.__name__ part -
.__objclass__ part -
.__qualname__ field -
.__repr__ slot ($self, /)
|Return repr(self).
.__set__ slot ($self, instance, value, /)
|Set an attribute of instance to value.
@member_descriptor 48 0 545152 0 0 -
.__delete__ slot ($self, instance, /)
|Delete an attribute of instance.
.__doc__ field -
.__get__ slot ($self, instance, owner=None, /)
|Return an attribute of instance, which is of type owner.
.__getattribute__ slot ($self, name, /)
|Return getattr(self, name).
.__name__ part -
.__objclass__ part -
.__qualname__ field -
.__reduce__ method -
.__repr__ slot ($self, /)
|Return repr(self).
.__set__ slot ($self, instance, value, /)
|Set an attribute of instance to value.
@tuple 24 8 71849248 0 0 (iterable=(), /)
|Built-in immutable sequence.
|
|If no argument is given, the constructor returns an empty tuple.
|If iterable is specified the tuple is initialized from iterable's items.
|
|If the argument is a tuple, the return value is the same object.
.__add__ slot ($self, value, /)
|Return self+value.
.__class_getitem__ shared -
|See PEP 585
.__contains__ slot ($self, key, /)
|Return key in self.
.__eq__ slot ($self, value, /)
|Return self==value.
.__ge__ slot ($self, value, /)
|Return self>=value.
.__getattribute__ slot ($self, name, /)
|Return getattr(self, name).
.__getitem__ slot ($self, key, /)
|Return self[key].
.__getnewargs__ method ($self, /)
.__gt__ slot ($self, value, /)
|Return self>value.
.__hash__ slot ($self, /)
|Return hash(self).
.__iter__ slot ($self, /)
|Implement iter(self).
.__le__ slot ($self, value, /)
|Return self<=value.
.__len__ slot ($self, /)
|Return len(self).
.__lt__ slot ($self, value, /)
|Return self<value.
.__mul__ slot ($self, value, /)
|Return self*value.
.__ne__ slot ($self, value, /)
|Return self!=value.
.__new__ fixed ($type, *args, **kwargs)
|Create and return a new object.  See help(type) for accurate signature.
.__repr__ slot ($self, /)
|Return repr(self).
.__rmul__ slot ($self, value, /)
|Return value*self.
.count method ($self, value, /)
|Return number of occurrences of value.
.index method ($self, value, start=0, stop=sys.maxsize, /)
|Return first index of value.
|
|Raises ValueError if the value is not present.
@int 24 4 21501184 0 0 -
|int([x]) -> integer
|int(x, base=10) -> integer
|
|Convert a number or string to an integer, or return 0 if no arguments
|are given.  If x is a number, return x.__int__().  For floating point
|numbers, this truncates towards zero.
|
|If x is not a number or if base is given, then x must be a string,
|bytes, or bytearray instance representing an integer literal in the
|given base.  The literal can be preceded by '+' or '-' and be surrounded
|by whitespace.  The base defaults to 10.  Valid bases are 0 and 2-36.
|Base 0 means to interpret the base from the string as an integer literal.
|>>> int('0b100', base=0)
|4
.__abs__ slot ($self, /)
|abs(self)
.__add__ slot ($self, value, /)
|Return self+value.
.__and__ slot ($self, value, /)
|Return self&value.
.__bool__ slot ($self, /)
|True if self else False
.__ceil__ method -
|Ceiling of an Integral returns itself.
.__divmod__ slot ($self, value, /)
|Return divmod(self, value).
.__eq__ slot ($self, value, /)
|Return self==value.
.__float__ slot ($self, /)
|float(self)
.__floor__ method -
|Flooring an Integral returns itself.
.__floordiv__ slot ($self, value, /)
|Return self//value.
.__format__ method ($self, format_spec, /)
.__ge__ slot ($self, value, /)
|Return self>=value.
.__getattribute__ slot ($self, name, /)
|Return getattr(self, name).
.__getnewargs__ method ($self, /)
.__gt__ slot ($self, value, /)
|Return self>value.
.__hash__ slot ($self, /)
|Return hash(self).
.__index__ slot ($self, /)
|Return self converted to an integer, if self is suitable for use as an index into a list.
.__int__ slot ($self, /)
|int(self)
.__invert__ slot ($self, /)
|~self
.__le__ slot ($self, value, /)
|Return self<=value.
.__lshift__ slot ($self, value, /)
|Return self<<value.
.__lt__ slot ($self, value, /)
|Return self<value.
.__mod__ slot ($self, value, /)
|Return self%value.
.__mul__ slot ($self, value, /)
|Return self*value.
.__ne__ slot ($self, value, /)
|Return self!=value.
.__neg__ slot ($self, /)
|-self
.__new__ fixed ($type, *args, **kwargs)
|Create and return a new object.  See help(type) for accurate signature.
.__or__ slot ($self, value, /)
|Return self|value.
.__pos__ slot ($self, /)
|+self
.__pow__ slot ($self, value, mod=None, /)
|Return pow(self, value, mod).
.__radd__ slot ($self, value, /)
|Return value+self.
.__rand__ slot ($self, value, /)
|Return value&self.
.__rdivmod__ slot ($self, value, /)
|Return divmod(value, self).
.__repr__ slot ($self, /)
|Return repr(self).
.__rfloordiv__ slot ($self, value, /)
|Return value//self.
.__rlshift__ slot ($self, value, /)
|Return value<<self.
.__rmod__ slot ($self, value, /)
|Return value%self.
.__rmul__ slot ($self, value, /)
|Return value*self.
.__ror__ slot ($self, value, /)
|Return value|self.
.__round__ method ($self, ndigits=<unrepresentable>, /)
|Rounding an Integral returns itself.
|
|Rounding with an ndigits argument also returns an integer.
.__rpow__ slot ($self, value, mod=None, /)
|Return pow(value, self, mod).
.__rrshift__ slot ($self, value, /)
|Return value>>self.
.__rshift__ slot ($self, value, /)
|Return self>>value.
.__rsub__ slot ($self, value, /)
|Return value-self.
.__rtruediv__ slot ($self, value, /)
|Return value/self.
.__rxor__ slot ($self, value, /)
|Return value^self.
.__sizeof__ method ($self, /)
|Returns size in memory, in bytes.
.__sub__ slot ($self, value, /)
|Return self-value.
.__truediv__ slot ($self, value, /)
|Return self/value.
.__trunc__ method -
|Truncating an Integral returns itself.
.__xor__ slot ($self, value, /)
|Return self^value.
.as_integer_ratio method ($self, /)
|Return integer ratio.
|
|Return a pair of integers, whose ratio is exactly equal to the original int
|and with a positive denominator.
|
|>>> (10).as_integer_ratio()
|(10, 1)
|>>> (-10).as_integer_ratio()
|(-10, 1)
|>>> (0).as_integer_ratio()
|(0, 1)
.bit_count method ($self, /)
|Number of ones in the binary representation of the absolute value of self.
|
|Also known as the population count.
|
|>>> bin(13)
|'0b1101'
|>>> (13).bit_count()
|3
.bit_length method ($self, /)
|Number of bits necessary to represent self in binary.
|
|>>> bin(37)
|'0b100101'
|>>> (37).bit_length()
|6
.conjugate method -
|Returns self, the complex conjugate of any int.
.denominator field -
|the denominator of a rational number in lowest terms
.from_bytes shared ($type, /, bytes, byteorder='big', *, signed=False)
|Return the integer represented by the given array of bytes.
|
|  bytes
|    Holds the array of bytes to convert.  The argument must either
|    support the buffer protocol or be an iterable object producing bytes.
|    Bytes and bytearray are examples of built-in objects that support the
|    buffer protocol.
|  byteorder
|    The byte order used to represent the integer.  If byteorder is 'big',
|    the most significant byte is at the beginning of the byte array.  If
|    byteorder is 'little', the most significant byte is at the end of the
|    byte array.  To request the native byte order of the host system, use
|    `sys.byteorder' as the byte order value.  Default is to use 'big'.
|  signed
|    Indicates whether two's complement is used to represent the integer.
.imag field -
|the imaginary part of a complex number
.numerator field -
|the numerator of a rational number in lowest terms
.real field -
|the real part of a complex number
.to_bytes method ($self, /, length=1, byteorder='big', *, signed=False)
|Return an array of bytes representing an integer.
|
|  length
|    Length of bytes object to use.  An OverflowError is raised if the
|    integer is not representable with the given number of bytes.  Default
|    is length 1.
|  byteorder
|    The byte order used to represent the integer.  If byteorder is 'big',
|    the most significant byte is at the beginning of the byte array.  If
|    byteorder is 'little', the most significant byte is at the end of the
|    byte array.  To request the native byte order of the host system, use
|    `sys.byteorder' as the byte order value.  Default is to use 'big'.
|  signed
|    Determines whether two's complement is used to represent the integer.
|    If signed is False and a negative integer is given, an OverflowError
|    is raised.
@NoneType 16 0 528640 0 0 -
.__bool__ slot ($self, /)
|True if self else False
.__new__ fixed ($type, *args, **kwargs)
|Create and return a new object.  See help(type) for accurate signature.
.__repr__ slot ($self, /)
|Return repr(self).
@mappingproxy 24 0 545088 0 0 -
.__class_getitem__ shared -
|See PEP 585
.__contains__ slot ($self, key, /)
|Return key in self.
.__eq__ slot ($self, value, /)
|Return self==value.
.__ge__ slot ($self, value, /)
|Return self>=value.
.__getattribute__ slot ($self, name, /)
|Return getattr(self, name).
.__getitem__ slot ($self, key, /)
|Return self[key].
.__gt__ slot ($self, value, /)
|Return self>value.
.__ior__ slot ($self, value, /)
|Return self|=value.
.__iter__ slot ($self, /)
|Implement iter(self).
.__le__ slot ($self, value, /)
|Return self<=value.
.__len__ slot ($self, /)
|Return len(self).
.__lt__ slot ($self, value, /)
|Return self<value.
.__ne__ slot ($self, value, /)
|Return self!=value.
.__new__ fixed ($type, *args, **kwargs)
|Create and return a new object.  See help(type) for accurate signature.
.__or__ slot ($self, value, /)
|Return self|value.
.__repr__ slot ($self, /)
|Return repr(self).
.__reversed__ method -
|D.__reversed__() -> reverse iterator
.__ror__ slot ($self, value, /)
|Return value|self.
.__str__ slot ($self, /)
|Return str(self).
.copy method -
|D.copy() -> a shallow copy of D
.get method -
|D.get(k[,d]) -> D[k] if k in D, else d.  d defaults to None.
.items method -
|D.items() -> a set-like object providing a view on D's items
.keys method -
|D.keys() -> a set-like object providing a view on D's keys
.values method -
|D.values() -> an object providing a view on D's values"

end Template
end ToolGateway
