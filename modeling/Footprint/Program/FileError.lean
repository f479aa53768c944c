namespace Footprint

inductive FileError where
  | notFound
  | notDirectory
  | isDirectory
  | nameTooLong
  | noSpace
  | notPermitted
  | noDevice
  | busy
  | notText
  | other (message : String)
  deriving DecidableEq, Repr

def FileError.message : FileError → String
  | notFound => "No such file or directory (os error 2)"
  | noDevice => "No such device or address (os error 6)"
  | notPermitted => "Permission denied (os error 13)"
  | notDirectory => "Not a directory (os error 20)"
  | isDirectory => "Is a directory (os error 21)"
  | busy => "Text file busy (os error 26)"
  | noSpace => "No space left on device (os error 28)"
  | nameTooLong => "File name too long (os error 36)"
  | notText => "stream did not contain valid UTF-8"
  | other message => message

inductive WriteError where
  | notCreated (cause : FileError)
  | notWritten (cause : FileError)
  deriving DecidableEq, Repr

end Footprint
